import ConfigClient.Value
import Mathlib.Tactic.Ring
import Mathlib.Tactic.SplitIfs

/-!
# Whole numbers as doubles

`Double.ofNat` gives the double nearest to a whole number. Below `2 ^ 53` that is the number itself,
and from `2 ^ 53` on the result does not fall below `2 ^ 53`, so comparisons with small whole
numbers come out as they do on the numbers themselves.

* `ofNat_exact`: a number below `2 ^ 53` keeps its value.
* `ofNat_large`: a larger one becomes infinite or keeps at least `2 ^ 53`.
* `le_ofNat_ofNat`: the order of a small whole number and any other.
* `isAtLeast_ofNat`: the same for values that are compared with a bound.
-/

namespace ConfigClient

namespace Double

/-! ## Magnitudes -/

theorem two_pow_mul_oneUnits (k : Nat) : 2 ^ k * oneUnits = 2 ^ (k + 1074) := by
  unfold oneUnits
  generalize 1074 = e
  rw [Nat.pow_eq, pow_add]

theorem oneUnits_pos : 0 < oneUnits := by
  unfold oneUnits
  generalize 1074 = e
  exact Nat.two_pow_pos e

/-- The same with a name for the exponent, so that the power is not computed. -/
theorem exists_two_pow_mul_oneUnits (k : Nat) :
    ∃ e, e = k + 1074 ∧ 2 ^ k * oneUnits = 2 ^ e :=
  ⟨_, rfl, two_pow_mul_oneUnits k⟩

theorem two_pow_dvd {k : Nat} (hk : k ≤ 1074) (n : Nat) : 2 ^ k ∣ n * oneUnits := by
  unfold oneUnits
  generalize 1074 = e at hk ⊢
  exact Nat.dvd_mul_left_of_dvd (Nat.pow_dvd_pow 2 hk) n

theorem units_zero (negative : Bool) (fraction : Fin (Nat.pow 2 52)) :
    (finite negative 0 fraction).units = fraction.val := rfl

theorem units_succ (negative : Bool) {k : Nat} (h : k + 1 < 2047)
    (fraction : Fin (Nat.pow 2 52)) :
    (finite negative ⟨k + 1, h⟩ fraction).units = (2 ^ 52 + fraction.val) * 2 ^ k := by
  simp only [units, Nat.add_one_ne_zero, ite_false, Nat.add_sub_cancel, Nat.pow_eq]

/-! ## Cutting a magnitude to its leading bits -/

/-- The exponent of the last place of a magnitude. -/
def lastPlace (m : Nat) : Nat := m.log2 - 52

theorem two_pow_lastPlace_le {m : Nat} (h : 2 ^ 52 ≤ m) : 2 ^ 52 * 2 ^ lastPlace m ≤ m := by
  have hm : m ≠ 0 := by omega
  have hlog : 52 ≤ m.log2 := (Nat.le_log2 hm).mpr h
  rw [← pow_add, show 52 + lastPlace m = m.log2 by unfold lastPlace; omega]
  exact Nat.log2_self_le hm

theorem significand_lt (m : Nat) : m / 2 ^ lastPlace m < 2 ^ 53 := by
  rw [Nat.div_lt_iff_lt_mul (Nat.two_pow_pos _), ← pow_add]
  have hlt : m < 2 ^ (m.log2 + 1) := Nat.lt_log2_self
  exact lt_of_lt_of_le hlt (Nat.pow_le_pow_right (by decide) (by unfold lastPlace; omega))

theorem le_significand {m : Nat} (h : 2 ^ 52 ≤ m) : 2 ^ 52 ≤ m / 2 ^ lastPlace m :=
  (Nat.le_div_iff_mul_le (Nat.two_pow_pos _)).mpr (two_pow_lastPlace_le h)

theorem lastPlace_of_lt {m : Nat} (h : m < 2 ^ 53) : lastPlace m = 0 := by
  unfold lastPlace
  rcases Nat.eq_zero_or_pos m with rfl | hm
  · rfl
  · have : m.log2 < 53 := (Nat.log2_lt (by omega)).mpr h
    omega

/-- Cutting a magnitude to its leading bits keeps the first of them. -/
theorem two_pow_le_cut {e m : Nat} (he : 52 ≤ e) (h : 2 ^ e ≤ m) :
    2 ^ e ≤ m / 2 ^ lastPlace m * 2 ^ lastPlace m := by
  have hm52 : 2 ^ 52 ≤ m := le_trans (Nat.pow_le_pow_right (by decide) he) h
  have hlog : e ≤ m.log2 := (Nat.le_log2 (by omega)).mpr h
  calc 2 ^ e ≤ 2 ^ (52 + lastPlace m) :=
        Nat.pow_le_pow_right (by decide) (by unfold lastPlace; omega)
    _ = 2 ^ 52 * 2 ^ lastPlace m := pow_add ..
    _ ≤ m / 2 ^ lastPlace m * 2 ^ lastPlace m := Nat.mul_le_mul_right _ (le_significand hm52)

/-- A number of `m` units is infinite, or it is `m` units cut to 53 leading bits. -/
theorem ofUnits_cases (negative : Bool) (m : Nat) :
    (ofUnits negative m = infinite negative ∧ 2046 ≤ lastPlace m) ∨
      ∃ exponent fraction, ofUnits negative m = finite negative exponent fraction ∧
        (finite negative exponent fraction).units = m / 2 ^ lastPlace m * 2 ^ lastPlace m := by
  have hlt := significand_lt m
  unfold ofUnits
  simp only [show m.log2 - 52 = lastPlace m from rfl, Nat.pow_eq]
  split_ifs with h h'
  · -- Below `2 ^ 52` nothing is cut off.
    right
    refine ⟨_, _, rfl, ?_⟩
    have hm : m < 2 ^ 52 := by
      by_contra hm
      have := le_significand (m := m) (by omega)
      omega
    rw [units_zero]
    simp only [lastPlace_of_lt (show m < 2 ^ 53 by omega), pow_zero, Nat.div_one, Nat.mul_one]
    exact Nat.mod_eq_of_lt hm
  · right
    refine ⟨_, _, rfl, ?_⟩
    rw [units_succ]
    congr 1
    simp only
    omega
  · exact .inl ⟨rfl, by omega⟩

theorem ofUnits_ne_nan (negative : Bool) (m : Nat) : ofUnits negative m ≠ nan := by
  rcases ofUnits_cases negative m with ⟨h, -⟩ | ⟨e, f, h, -⟩ <;> rw [h] <;> simp

/-! ## Rounding -/

theorem le_roundQuotient (n d : Nat) : n / d ≤ roundQuotient n d := by
  unfold roundQuotient
  simp only
  split_ifs <;> omega

theorem roundQuotient_of_dvd {n d : Nat} (hd : 0 < d) (h : d ∣ n) :
    roundQuotient n d = n / d := by
  unfold roundQuotient
  simp only [Nat.mod_eq_zero_of_dvd h, Nat.mul_zero, hd, ite_true]

theorem ofNat_eq (n : Nat) :
    ofNat n = ofUnits false (roundQuotient (n * oneUnits) (2 ^ lastPlace (n * oneUnits)) *
      2 ^ lastPlace (n * oneUnits)) := by
  unfold ofNat nearest
  simp only [Nat.div_one, Nat.one_mul, Nat.pow_eq]
  rfl

theorem ofNat_ne_nan (n : Nat) : ofNat n ≠ nan := by
  rw [ofNat_eq]
  exact ofUnits_ne_nan _ _

/-- A whole number below `2 ^ 53` is a double as it is. -/
theorem ofNat_exact {n : Nat} (h : n < 2 ^ 53) :
    ∃ exponent fraction, ofNat n = finite false exponent fraction ∧
      (finite false exponent fraction).units = n * oneUnits := by
  obtain ⟨last, hlast, hunit⟩ := exists_two_pow_mul_oneUnits 53
  have hplace : lastPlace (n * oneUnits) ≤ 1074 := by
    unfold lastPlace
    rcases Nat.eq_zero_or_pos n with rfl | hn
    · simp
    · have hne : n * oneUnits ≠ 0 := Nat.mul_ne_zero (by omega) oneUnits_pos.ne'
      have hlt : n * oneUnits < 2 ^ last := by
        rw [← hunit]
        exact Nat.mul_lt_mul_of_pos_right h oneUnits_pos
      have hlog : (n * oneUnits).log2 < last := (Nat.log2_lt hne).2 hlt
      omega
  have hdvd : 2 ^ lastPlace (n * oneUnits) ∣ n * oneUnits := two_pow_dvd hplace n
  have hround : ofNat n = ofUnits false (n * oneUnits) := by
    rw [ofNat_eq, roundQuotient_of_dvd (Nat.two_pow_pos _) hdvd, Nat.div_mul_cancel hdvd]
  rcases ofUnits_cases false (n * oneUnits) with ⟨-, hbig⟩ | ⟨e, f, heq, hunits⟩
  · omega
  · exact ⟨e, f, hround.trans heq, by rw [hunits, Nat.div_mul_cancel hdvd]⟩

/-- A whole number from `2 ^ 53` on stays there. -/
theorem ofNat_large {n : Nat} (h : 2 ^ 53 ≤ n) :
    ofNat n = infinite false ∨
      ∃ exponent fraction, ofNat n = finite false exponent fraction ∧
        2 ^ 53 * oneUnits ≤ (finite false exponent fraction).units := by
  set m := n * oneUnits with hm
  obtain ⟨e, he, hunit⟩ := exists_two_pow_mul_oneUnits 53
  have he52 : 52 ≤ e := by omega
  have hle : 2 ^ e ≤ m := by
    rw [hm, ← hunit]
    exact Nat.mul_le_mul_right _ h
  have hround : 2 ^ e ≤ roundQuotient m (2 ^ lastPlace m) * 2 ^ lastPlace m :=
    le_trans (two_pow_le_cut he52 hle) (Nat.mul_le_mul_right _ (le_roundQuotient _ _))
  rw [ofNat_eq, ← hm]
  rcases ofUnits_cases false (roundQuotient m (2 ^ lastPlace m) * 2 ^ lastPlace m) with
    ⟨heq, -⟩ | ⟨exponent, fraction, heq, hunits⟩
  · exact .inl heq
  · refine .inr ⟨exponent, fraction, heq, ?_⟩
    rw [hunits, hunit]
    exact two_pow_le_cut he52 hround

/-! ## Order -/

theorem le_ofNat_ofNat {k : Nat} (hk : k < 2 ^ 53) (n : Nat) :
    le (ofNat k) (ofNat n) = decide (k ≤ n) := by
  obtain ⟨e, f, hk', hku⟩ := ofNat_exact hk
  rw [hk']
  rcases Nat.lt_or_ge n (2 ^ 53) with hn | hn
  · obtain ⟨e', f', hn', hnu⟩ := ofNat_exact hn
    rw [hn']
    simp only [le, signedUnits, hku, hnu, Bool.false_eq_true, ite_false, Nat.cast_le]
    rw [decide_eq_decide]
    exact Nat.mul_le_mul_right_iff oneUnits_pos
  · rcases ofNat_large hn with hn' | ⟨e', f', hn', hnu⟩
    · rw [hn']
      simp only [le]
      exact (decide_eq_true (by omega)).symm
    · rw [hn']
      simp only [le, signedUnits, hku, Bool.false_eq_true, ite_false, Nat.cast_le]
      rw [decide_eq_decide]
      have : k * oneUnits ≤ 2 ^ 53 * oneUnits := Nat.mul_le_mul_right _ (by omega)
      exact ⟨fun _ => by omega, fun _ => le_trans this hnu⟩

end Double

/-- A whole number as a value is compared with a bound as the number itself. -/
theorem Value.isAtLeast_ofNat {k : Nat} (hk : k < 2 ^ 53) (n : Nat) :
    (Value.number (.ofNat n)).isAtLeast k = .ok (decide (k ≤ n)) := by
  rw [← Double.le_ofNat_ofNat hk n]
  rfl

end ConfigClient
