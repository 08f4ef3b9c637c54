import ConfigClient.Proofs.Digits
import ConfigClient.Proofs.Double.Whole

/-!
# Decimals of doubles

The number nearest to a quotient depends on the quotient alone, so zeros can be moved between the
digits and the exponent of a decimal. The digits that are chosen for a number lead back to it: they
are checked, and if none passes the exact ones are taken.

* `nearest_congr`: equal quotients have the same nearest number.
* `ofDecimal_mul_ten_pow`: zeros behind the digits count as in the exponent.
* `ofUnits_units`: a finite number is the one of its own magnitude.
* `ofDecimal_shortest`: the digits that are chosen for a number lead back to it.
-/

namespace ConfigClient

namespace Double

/-! ## Quotients -/

theorem roundQuotient_mul {c : Nat} (hc : 0 < c) (n d : Nat) :
    roundQuotient (n * c) (d * c) = roundQuotient n d := by
  have hlt (a b : Nat) : 2 * (a * c) < b * c ↔ 2 * a < b := by
    rw [← Nat.mul_assoc, Nat.mul_lt_mul_right hc]
  have hgt (a b : Nat) : b * c < 2 * (a * c) ↔ b < 2 * a := by
    rw [← Nat.mul_assoc, Nat.mul_lt_mul_right hc]
  unfold roundQuotient
  simp only [Nat.mul_div_mul_right _ _ hc, Nat.mul_mod_mul_right, hlt, hgt]

theorem nearest_mul {c : Nat} (hc : 0 < c) (negative : Bool) (n d : Nat) :
    nearest negative (n * c) (d * c) = nearest negative n d := by
  unfold nearest
  simp only [Nat.mul_right_comm _ c, Nat.mul_div_mul_right _ _ hc, roundQuotient_mul hc]

/-- Equal quotients have the same nearest number. -/
theorem nearest_congr {n d n' d' : Nat} (hd : 0 < d) (hd' : 0 < d') (h : n * d' = n' * d)
    (negative : Bool) : nearest negative n d = nearest negative n' d' := by
  rw [← nearest_mul hd', ← nearest_mul hd negative n', h, Nat.mul_comm d]

/-- A quotient that is a magnitude with few enough places is that magnitude. -/
theorem nearest_of_dvd {d u : Nat} (hd : 0 < d) (hu : 2 ^ lastPlace u ∣ u) (negative : Bool)
    {n : Nat} (h : n * oneUnits = u * d) : nearest negative n d = ofUnits negative u := by
  have hquotient : u * d / d = u := Nat.mul_div_cancel u hd
  have hround : roundQuotient (u * d) (d * 2 ^ lastPlace u) = u / 2 ^ lastPlace u := by
    rw [Nat.mul_comm d, roundQuotient_mul hd, roundQuotient_of_dvd (Nat.two_pow_pos _) hu]
  unfold nearest
  simp only [h, hquotient, Nat.pow_eq]
  change ofUnits negative (roundQuotient (u * d) (d * 2 ^ lastPlace u) * 2 ^ lastPlace u) = _
  rw [hround, Nat.div_mul_cancel hu]

/-! ## Digits and exponents -/

theorem powerOfTen_eq (m : Nat) (e : Int) :
    powerOfTen m e = (m * 10 ^ e.toNat, 10 ^ (-e).toNat) := by
  cases e with
  | ofNat k => simp [powerOfTen]
  | negSucc k => simp [powerOfTen, Int.neg_negSucc]

/-- Zeros behind the digits count as in the exponent. -/
theorem ofDecimal_mul_ten_pow {m : Nat} (hm : m ≠ 0) (negative : Bool) (k : Nat) (e : Int) :
    ofDecimal negative (m * 10 ^ k) e = ofDecimal negative m (e + k) := by
  have hne : m * 10 ^ k ≠ 0 := Nat.mul_ne_zero hm (Nat.pow_pos (by decide)).ne'
  have hlength : (Nat.toDigits 10 (m * 10 ^ k)).length = (Nat.toDigits 10 m).length + k := by
    have h := congrArg List.length (Text.ofNat_mul_ten_pow hm k)
    simpa [Text.ofNat, zeros] using h
  have htop : ((Nat.toDigits 10 (m * 10 ^ k)).length : Int) + e =
      (Nat.toDigits 10 m).length + (e + k) := by
    rw [hlength]
    omega
  have hquotient : m * 10 ^ k * 10 ^ e.toNat * 10 ^ (-(e + k)).toNat =
      m * 10 ^ (e + k).toNat * 10 ^ (-e).toNat := by
    rw [Nat.mul_assoc, Nat.mul_assoc m, Nat.mul_assoc m, ← pow_add, ← pow_add, ← pow_add]
    congr 2
    omega
  unfold ofDecimal
  simp only [hne, hm, htop, powerOfTen_eq, false_or]
  split_ifs
  · rfl
  · rfl
  · exact nearest_congr (Nat.pow_pos (by decide)) (Nat.pow_pos (by decide)) hquotient negative

/-! ## Signs -/

/-- A number with another sign. -/
def withSign (negative : Bool) : Double → Double
  | nan => nan
  | infinite _ => infinite negative
  | finite _ exponent fraction => finite negative exponent fraction

theorem withSign_ofUnits (negative sign : Bool) (m : Nat) :
    withSign negative (ofUnits sign m) = ofUnits negative m := by
  unfold ofUnits
  simp only
  split_ifs <;> rfl

theorem withSign_ofDecimal (negative sign : Bool) (m : Nat) (e : Int) :
    withSign negative (ofDecimal sign m e) = ofDecimal negative m e := by
  unfold ofDecimal
  simp only
  split_ifs
  · exact withSign_ofUnits negative sign 0
  · rfl
  · exact withSign_ofUnits negative sign _

/-! ## Magnitudes of finite numbers -/

theorem lastPlace_mul_two_pow {a : Nat} (ha : 2 ^ 52 ≤ a) (ha' : a < 2 ^ 53) (k : Nat) :
    lastPlace (a * 2 ^ k) = k := by
  have hne : a * 2 ^ k ≠ 0 := Nat.mul_ne_zero (by omega) (Nat.two_pow_pos k).ne'
  have hlog : (a * 2 ^ k).log2 = 52 + k := by
    rw [Nat.log2_eq_iff hne]
    constructor
    · rw [pow_add]
      exact Nat.mul_le_mul_right _ ha
    · rw [show 52 + k + 1 = 53 + k by omega, pow_add]
      exact Nat.mul_lt_mul_of_pos_right ha' (Nat.two_pow_pos k)
  unfold lastPlace
  omega

/-- The magnitude of a finite number: some significand and some zeros behind it. Below the least
exponent there are no zeros, and above it the significand has its leading bit. -/
theorem units_finite (negative : Bool) (exponent : Fin 2047) (fraction : Fin (Nat.pow 2 52)) :
    let u := (finite negative exponent fraction).units
    (exponent.val = 0 ∧ u = fraction.val) ∨
      ∃ k, exponent.val = k + 1 ∧ u = (2 ^ 52 + fraction.val) * 2 ^ k := by
  obtain ⟨exponent, hexponent⟩ := exponent
  cases exponent with
  | zero => exact .inl ⟨rfl, rfl⟩
  | succ k => exact .inr ⟨k, rfl, units_succ negative hexponent fraction⟩

theorem fraction_lt (fraction : Fin (Nat.pow 2 52)) : fraction.val < 2 ^ 52 := fraction.isLt

/-- The magnitude of a finite number has no more places than fit. -/
theorem two_pow_lastPlace_dvd_units (negative : Bool) (exponent : Fin 2047)
    (fraction : Fin (Nat.pow 2 52)) :
    let u := (finite negative exponent fraction).units
    2 ^ lastPlace u ∣ u := by
  have hfraction := fraction_lt fraction
  simp only
  rcases units_finite negative exponent fraction with ⟨-, hu⟩ | ⟨k, -, hu⟩
  · rw [hu, lastPlace_of_lt (by omega), pow_zero]
    exact Nat.one_dvd _
  · rw [hu, lastPlace_mul_two_pow (by omega) (by omega)]
    exact Nat.dvd_mul_left _ _

/-- A finite number is the one of its own magnitude. -/
theorem ofUnits_units (negative : Bool) (exponent : Fin 2047) (fraction : Fin (Nat.pow 2 52)) :
    ofUnits negative (finite negative exponent fraction).units =
      finite negative exponent fraction := by
  have hfraction := fraction_lt fraction
  have hexponent := exponent.isLt
  rcases units_finite negative exponent fraction with ⟨hzero, hu⟩ | ⟨k, hk, hu⟩
  · have hplace : fraction.val.log2 - 52 = 0 := lastPlace_of_lt (m := fraction.val) (by omega)
    rw [hu]
    unfold ofUnits
    simp only [hplace, Nat.pow_eq, pow_zero, Nat.div_one, hfraction, if_true]
    congr 1
    · exact Fin.ext hzero.symm
    · exact Fin.ext (Nat.mod_eq_of_lt hfraction)
  · have hplace := lastPlace_mul_two_pow (a := 2 ^ 52 + fraction.val) (by omega) (by omega) k
    have hcut : (2 ^ 52 + fraction.val) * 2 ^ k / 2 ^ k = 2 ^ 52 + fraction.val :=
      Nat.mul_div_cancel _ (Nat.two_pow_pos k)
    have hlarge : ¬2 ^ 52 + fraction.val < 2 ^ 52 := by omega
    have hfits : k + 1 < 2047 := by omega
    have hmod : (2 ^ 52 + fraction.val) % 2 ^ 52 = fraction.val := by omega
    rw [hu]
    generalize (2 ^ 52 + fraction.val) * 2 ^ k = u at *
    unfold ofUnits
    simp only [show u.log2 - 52 = lastPlace u from rfl, hplace, Nat.pow_eq, hcut, hlarge, hfits,
      hmod, if_false, dite_true]
    congr 1
    exact Fin.ext hk.symm

theorem units_lt (negative : Bool) (exponent : Fin 2047) (fraction : Fin (Nat.pow 2 52)) :
    (finite negative exponent fraction).units < 2 ^ 1024 * oneUnits := by
  have hfraction := fraction_lt fraction
  have hexponent := exponent.isLt
  obtain ⟨e, he, hone⟩ := exists_two_pow_mul_oneUnits 1024
  rw [hone]
  rcases units_finite negative exponent fraction with ⟨-, hu⟩ | ⟨k, hk, hu⟩
  · rw [hu]
    exact lt_of_lt_of_le hfraction (Nat.pow_le_pow_right (by decide) (by omega))
  · rw [hu]
    calc (2 ^ 52 + fraction.val) * 2 ^ k < 2 ^ 53 * 2 ^ k :=
          Nat.mul_lt_mul_of_pos_right (by omega) (Nat.two_pow_pos k)
      _ = 2 ^ (53 + k) := (pow_add ..).symm
      _ ≤ 2 ^ e := Nat.pow_le_pow_right (by decide) (by omega)

theorem eq_of_isZero {negative : Bool} {exponent : Fin 2047} {fraction : Fin (Nat.pow 2 52)}
    (h : (finite negative exponent fraction).isZero = true) :
    finite negative exponent fraction = ofUnits negative 0 := by
  simp only [isZero, Bool.and_eq_true, beq_iff_eq] at h
  have hu : (finite negative exponent fraction).units = 0 := by rw [units, if_pos h.1, h.2]
  rw [← ofUnits_units, hu]

theorem units_ne_zero {negative : Bool} {exponent : Fin 2047} {fraction : Fin (Nat.pow 2 52)}
    (h : (finite negative exponent fraction).isZero = false) :
    (finite negative exponent fraction).units ≠ 0 := by
  have hnonzero : ¬(exponent.val = 0 ∧ fraction.val = 0) := by simpa [isZero] using h
  rcases units_finite negative exponent fraction with ⟨hexponent, hu⟩ | ⟨k, -, hu⟩
  · rw [hu]
    exact fun hfraction => hnonzero ⟨hexponent, hfraction⟩
  · rw [hu]
    exact Nat.mul_ne_zero (by omega) (Nat.two_pow_pos k).ne'

/-! ## Chosen digits -/

/-- The exact digits of a magnitude lead back to it. -/
theorem ofDecimal_exact {u : Nat} (hu : u ≠ 0) (hlt : u < 2 ^ 1024 * oneUnits)
    (hdvd : 2 ^ lastPlace u ∣ u) :
    ofDecimal false (u * Nat.pow 5 1074) (-1074) = ofUnits false u := by
  obtain ⟨least, hleast, hfive⟩ : ∃ least, 743 ≤ least ∧ 10 ^ least ≤ Nat.pow 5 1074 :=
    ⟨743, le_rfl, by decide +kernel⟩
  have htwo : (2 : Nat) ^ 1024 ≤ 10 ^ 310 := by decide +kernel
  have hten : oneUnits * Nat.pow 5 1074 = 10 ^ (-(-1074 : Int)).toNat := by decide +kernel
  have hexponent : (-(-1074 : Int)).toNat = 1074 := rfl
  have hpos : 0 < Nat.pow 5 1074 := by decide +kernel
  have hpower := powerOfTen_eq (u * Nat.pow 5 1074) (-1074)
  rw [show (-1074 : Int).toNat = 0 from rfl, pow_zero, Nat.mul_one] at hpower
  -- With names for the powers they are not computed.
  generalize Nat.pow 5 1074 = five at *
  generalize (2 : Nat) ^ 1024 = two at *
  generalize (-(-1074 : Int)).toNat = e at *
  have hne : u * five ≠ 0 := Nat.mul_ne_zero hu hpos.ne'
  have hmost : (Nat.toDigits 10 (u * five)).length ≤ 310 + e := by
    rw [Nat.length_toDigits_le_iff (by decide) (by omega), pow_add]
    calc u * five < two * oneUnits * five := Nat.mul_lt_mul_of_pos_right hlt hpos
      _ = two * 10 ^ e := by rw [Nat.mul_assoc, hten]
      _ ≤ 10 ^ 310 * 10 ^ e := Nat.mul_le_mul_right _ htwo
  have hle : five ≤ u * five := Nat.le_mul_of_pos_left _ (Nat.pos_of_ne_zero hu)
  have hlong : least < (Nat.toDigits 10 (u * five)).length := by
    rw [← Nat.not_le, Nat.length_toDigits_le_iff (by decide) (by omega), Nat.not_lt]
    exact hfive.trans hle
  have hlow : ¬(u * five = 0 ∨ ((Nat.toDigits 10 (u * five)).length : Int) + -1074 < -330) := by
    omega
  have hhigh : ¬310 < ((Nat.toDigits 10 (u * five)).length : Int) + -1074 := by omega
  unfold ofDecimal
  simp only [hlow, hhigh, hpower, if_false]
  refine nearest_of_dvd (Nat.pow_pos (by decide)) hdvd false ?_
  rw [Nat.mul_assoc, Nat.mul_comm five, hten]

/-- Digits that are found have been checked. -/
theorem ofDecimal_withDigits? {x : Double} {count m : Nat} {e : Int}
    (h : withDigits? x count = some (m, e)) : ofDecimal false m e = ofUnits false x.units := by
  simp only [withDigits?, Option.map_eq_some_iff, Prod.mk.injEq] at h
  obtain ⟨m', hfound, rfl, rfl⟩ := h
  have hchecked := List.find?_some hfound
  simpa only [beq_iff_eq] using hchecked

/-- The digits that are chosen for a number lead back to it. -/
theorem ofDecimal_shortest {x : Double} {negative : Bool} {exponent : Fin 2047}
    {fraction : Fin (Nat.pow 2 52)} (hx : x = finite negative exponent fraction)
    (hne : x.units ≠ 0) : ofDecimal negative x.shortest.1 x.shortest.2 = x := by
  have hlt : x.units < 2 ^ 1024 * oneUnits := hx ▸ units_lt negative exponent fraction
  have hdvd : 2 ^ lastPlace x.units ∣ x.units :=
    hx ▸ two_pow_lastPlace_dvd_units negative exponent fraction
  have hmagnitude : ofDecimal false x.shortest.1 x.shortest.2 = ofUnits false x.units := by
    unfold shortest
    cases hfound : (List.range' 1 17).findSome? (withDigits? x) with
    | none => exact ofDecimal_exact hne hlt hdvd
    | some found =>
      obtain ⟨count, -, hcount⟩ := List.exists_of_findSome?_eq_some hfound
      exact ofDecimal_withDigits? hcount
  have hsigned := congrArg (withSign negative) hmagnitude
  rw [withSign_ofDecimal, withSign_ofUnits] at hsigned
  rw [hsigned, hx, ofUnits_units]

theorem shortest_ne_zero {x : Double} {negative : Bool} {exponent : Fin 2047}
    {fraction : Fin (Nat.pow 2 52)} (hx : x = finite negative exponent fraction)
    (hne : x.units ≠ 0) : x.shortest.1 ≠ 0 := by
  intro hzero
  have hofDecimal (e : Int) : ofDecimal negative 0 e = ofUnits negative 0 := rfl
  have h := ofDecimal_shortest hx hne
  rw [hzero, hofDecimal] at h
  exact hne (h ▸ rfl)

end Double

end ConfigClient
