import ConfigClient.Proofs.Double.Decimal
import ConfigClient.Proofs.Json.RoundTrip

/-!
# Numbers in JSON

The text of a finite number is a word that is read as that number, whichever of its layouts it has.
Only the sign of zero is lost.

* `Writes`: a word and the numeral that is read from it.
* `writes_layout`: the layouts of some digits with a point.
* `readsBack_of_isFinite`: a finite number is read back from its text unless it is minus zero.
-/

namespace ConfigClient

namespace Json

open Token Numeral
open Double (zeros)

/-! ## Parts of a numeral -/

theorem isWordUnit_of_isDigit {u : UInt16} (h : Text.isDigit u = true) : IsWordUnit u := by
  have hne (v : UInt16) (hv : Text.isDigit v = false) : u ≠ v := by
    rintro rfl
    rw [h] at hv
    cases hv
  have hblank : isBlank u = false := by
    simp [isBlank, hne 0x20 (by decide), hne 0x09 (by decide), hne 0x0A (by decide),
      hne 0x0D (by decide)]
  refine ⟨hblank, hne _ (by decide), ?_⟩
  simp only [punctuation?, hne (Text.unit '[') (by decide), hne (Text.unit ']') (by decide),
    hne (Text.unit '\x7b') (by decide), hne (Text.unit '\x7d') (by decide),
    hne (Text.unit ',') (by decide), hne (Text.unit ':') (by decide), if_false]

theorem spanDigits_append {ds rest : Text} (hd : ∀ u ∈ ds, Text.isDigit u = true)
    (hr : ∀ u ∈ rest.head?, Text.isDigit u = false) : spanDigits (ds ++ rest) = (ds, rest) := by
  unfold spanDigits
  rw [List.takeWhile_append_of_pos hd, List.dropWhile_append_of_pos hd]
  cases rest with
  | nil => simp
  | cons u rest => simp [hr u rfl]

/-- The sign of a numeral. -/
def signText (negative : Bool) : Text := if negative then [Text.unit '-'] else []

/-- Whether digits can stand before the point: there are some, without a zero in front unless it is
alone. -/
structure IsWhole (ds : Text) : Prop where
  digits : ∀ u ∈ ds, Text.isDigit u = true
  ne_nil : ds ≠ []
  head : 1 < ds.length → ds.head? ≠ some (Text.unit '0')

theorem isWhole_zero : IsWhole [Text.unit '0'] :=
  ⟨List.forall_mem_singleton.2 (by decide), List.cons_ne_nil _ _, fun h => absurd h (by decide)⟩

/-- Whether a text can end a numeral and gives it an exponent. -/
structure IsEnding (t : Text) (e : Int) : Prop where
  head : ∀ u ∈ t.head?, u = Text.unit 'e'
  units : ∀ u ∈ t, IsWordUnit u
  value : ending? t = some e

theorem IsEnding.head_not_digit {t : Text} {e : Int} (h : IsEnding t e) :
    ∀ u ∈ t.head?, Text.isDigit u = false := by
  intro u hu
  rw [h.head u hu]
  decide

theorem isEnding_nil : IsEnding [] 0 := ⟨nofun, nofun, rfl⟩

theorem exponent?_of_spanSign {t : Text} {negative : Bool} {n : Nat}
    (h : spanSign t = (negative, Text.ofNat n)) :
    exponent? t = some (if negative then -(n : Int) else n) := by
  have hdigits : (Text.ofNat n).all Text.isDigit = true :=
    List.all_eq_true.2 fun u hu => Text.isDigit_of_mem_ofNat hu
  simp only [exponent?, h, Text.ofNat_ne_nil, hdigits, Text.numeral_ofNat, not_true_eq_false,
    or_self, if_false]

/-- An exponent with its sign. -/
theorem isEnding_exponent (e : Int) :
    IsEnding (Text.unit 'e' :: (if 0 ≤ e then Text.unit '+' else Text.unit '-') ::
      Text.ofNat e.natAbs) e := by
  refine ⟨?_, ?_, ?_⟩
  · rintro u ⟨⟩
    rfl
  · intro u hu
    simp only [List.mem_cons] at hu
    rcases hu with rfl | rfl | hu
    · decide
    · split_ifs <;> decide
    · exact isWordUnit_of_isDigit (Text.isDigit_of_mem_ofNat hu)
  · simp only [ending?, true_or, if_true]
    by_cases he : 0 ≤ e
    · have hsign : spanSign (Text.unit '+' :: Text.ofNat e.natAbs) = (false, _) := rfl
      rw [if_pos he, exponent?_of_spanSign hsign]
      simp only [Bool.false_eq_true, if_false]
      congr 1
      omega
    · have hsign : spanSign (Text.unit '-' :: Text.ofNat e.natAbs) = (true, _) := rfl
      rw [if_neg he, exponent?_of_spanSign hsign]
      simp only [if_true]
      congr 1
      omega

/-! ## Words for numerals -/

/-- Whether a word is read as a numeral. -/
structure Writes (w : Text) (n : Numeral) : Prop where
  word : IsWord w
  read : numeral? w = some n

theorem numeral?_signText {negative : Bool} {whole rest : Text} (hw : IsWhole whole)
    (hr : ∀ u ∈ rest.head?, Text.isDigit u = false) :
    numeral? (signText negative ++ (whole ++ rest)) =
      if rest.head? = some (Text.unit '.') then
        if (spanDigits rest.tail).1 = [] then none
        else (ending? (spanDigits rest.tail).2).bind fun e =>
          some ⟨negative, whole, (spanDigits rest.tail).1, e⟩
      else (ending? rest).bind fun e => some ⟨negative, whole, [], e⟩ := by
  have hlegal : ¬(whole = [] ∨ (1 < whole.length ∧ whole.head? = some (Text.unit '0'))) := by
    rintro (h | ⟨h, h'⟩)
    · exact hw.ne_nil h
    · exact hw.head h h'
  have hhead : (whole ++ rest).head? ≠ some (Text.unit '-') := by
    obtain ⟨hdigits, hne, -⟩ := hw
    cases whole with
    | nil => exact absurd rfl hne
    | cons u whole =>
      rintro ⟨⟩
      exact absurd (hdigits _ List.mem_cons_self) (by decide)
  have hspan := spanDigits_append hw.digits hr
  unfold numeral?
  cases negative with
  | false =>
    simp only [signText, Bool.false_eq_true, if_false, List.nil_append, hhead, hspan, hlegal,
      decide_false]
    rfl
  | true =>
    simp only [signText, if_true, List.cons_append, List.nil_append, List.head?_cons,
      List.tail_cons, hspan, hlegal, if_false, decide_true]
    rfl

theorem isWordUnit_of_mem_signText {negative : Bool} {u : UInt16} (h : u ∈ signText negative) :
    IsWordUnit u := by
  cases negative with
  | false => cases h
  | true =>
    rw [List.mem_singleton.1 h]
    decide

/-- The word of a numeral, from the units of its parts. -/
theorem isWord_signText {negative : Bool} {whole rest : Text} (hw : IsWhole whole)
    (hr : ∀ u ∈ rest, IsWordUnit u) : IsWord (signText negative ++ (whole ++ rest)) := by
  refine ⟨by simp [hw.ne_nil], fun u hu => ?_⟩
  rw [List.mem_append, List.mem_append] at hu
  rcases hu with hu | hu | hu
  · exact isWordUnit_of_mem_signText hu
  · exact isWordUnit_of_isDigit (hw.digits u hu)
  · exact hr u hu

/-- A numeral without a point. -/
theorem writes_whole {whole ending : Text} {e : Int} (hw : IsWhole whole) (he : IsEnding ending e)
    (negative : Bool) :
    Writes (signText negative ++ (whole ++ ending)) ⟨negative, whole, [], e⟩ := by
  have hpoint : ending.head? ≠ some (Text.unit '.') := by
    intro h
    exact absurd (he.head _ h) (by decide)
  refine ⟨isWord_signText hw he.units, ?_⟩
  rw [numeral?_signText hw he.head_not_digit, if_neg hpoint, he.value]
  rfl

/-- A numeral with a point. -/
theorem writes_point {whole fraction ending : Text} {e : Int} (hw : IsWhole whole)
    (hf : ∀ u ∈ fraction, Text.isDigit u = true) (hne : fraction ≠ []) (he : IsEnding ending e)
    (negative : Bool) :
    Writes (signText negative ++ (whole ++ Text.unit '.' :: (fraction ++ ending)))
      ⟨negative, whole, fraction, e⟩ := by
  have hspan := spanDigits_append hf he.head_not_digit
  refine ⟨isWord_signText hw ?_, ?_⟩
  · intro u hu
    rw [List.mem_cons, List.mem_append] at hu
    rcases hu with rfl | hu | hu
    · decide
    · exact isWordUnit_of_isDigit (hf u hu)
    · exact he.units u hu
  · have hdigit : ∀ u ∈ (Text.unit '.' :: (fraction ++ ending)).head?, Text.isDigit u = false := by
      rintro u ⟨⟩
      decide
    rw [numeral?_signText hw hdigit]
    simp only [List.head?_cons, List.tail_cons, hspan, if_true, hne, if_false, he.value]
    rfl

/-! ## Layouts -/

/-- Whether digits can stand in front of a number: there are some, and the first one is no zero. -/
structure IsLeading (ds : Text) : Prop where
  digits : ∀ u ∈ ds, Text.isDigit u = true
  ne_nil : ds ≠ []
  head : ds.head? ≠ some (Text.unit '0')

theorem IsLeading.isWhole {ds : Text} (h : IsLeading ds) : IsWhole ds :=
  ⟨h.digits, h.ne_nil, fun _ => h.head⟩

theorem isDigit_of_mem_zeros {k : Nat} {u : UInt16} (h : u ∈ zeros k) : Text.isDigit u = true := by
  rw [List.eq_of_mem_replicate h]
  decide

theorem numeral_ne_zero {ds : Text} (h : IsLeading ds) : ds.numeral ≠ 0 := by
  obtain ⟨hdigits, hne, hhead⟩ := h
  cases ds with
  | nil => exact absurd rfl hne
  | cons u ds =>
    have hu := hdigits u List.mem_cons_self
    have hzero : u ≠ 48 := fun h => hhead (by rw [h]; rfl)
    have hlt : 48 < u.toNat := by
      simp only [Text.isDigit, Bool.and_eq_true, decide_eq_true_eq] at hu
      exact UInt16.lt_iff_toNat_lt.1 (UInt16.lt_of_le_of_ne hu.1 hzero.symm)
    have hfirst : Text.numeral [u] = u.toNat - 48 := by simp [Text.numeral]
    have hpos : 0 < 10 ^ ds.length * (u.toNat - 48) :=
      Nat.mul_pos (Nat.pow_pos (by decide)) (by omega)
    change Text.numeral ([u] ++ ds) ≠ 0
    rw [Text.numeral_append, hfirst]
    omega

/-- Zeros in front of the digits, behind the point. -/
theorem writes_small {ds : Text} (h : IsLeading ds) (k : Nat) (negative : Bool) :
    ∃ n, Writes (signText negative ++ (Text.unit '0' :: Text.unit '.' :: zeros k ++ ds)) n ∧
      n.value = Double.ofDecimal negative ds.numeral (-k - ds.length) := by
  have hfraction : ∀ u ∈ zeros k ++ ds, Text.isDigit u = true := by
    intro u hu
    rcases List.mem_append.1 hu with hu | hu
    · exact isDigit_of_mem_zeros hu
    · exact h.digits u hu
  have hwrites := writes_point isWhole_zero hfraction (by simp [h.ne_nil]) isEnding_nil negative
  rw [List.append_nil] at hwrites
  refine ⟨_, hwrites, ?_⟩
  have hnumeral : Text.numeral ([Text.unit '0'] ++ (zeros k ++ ds)) = ds.numeral := by
    rw [List.singleton_append, Text.numeral_cons_zero, Text.numeral_append, Text.numeral_zeros,
      Nat.mul_zero, Nat.zero_add]
  have hlength : (zeros k ++ ds).length = k + ds.length := by simp [zeros]
  simp only [Numeral.value, hnumeral, hlength]
  congr 1
  omega

/-- Zeros behind the digits. -/
theorem writes_large {ds : Text} (h : IsLeading ds) (k : Nat) (negative : Bool) :
    ∃ n, Writes (signText negative ++ (ds ++ zeros k)) n ∧
      n.value = Double.ofDecimal negative ds.numeral k := by
  have hwhole : IsWhole (ds ++ zeros k) := by
    refine ⟨?_, by simp [h.ne_nil], fun _ => ?_⟩
    · intro u hu
      rcases List.mem_append.1 hu with hu | hu
      · exact h.digits u hu
      · exact isDigit_of_mem_zeros hu
    · rw [List.head?_append_of_ne_nil _ h.ne_nil]
      exact h.head
  have hwrites := writes_whole hwhole isEnding_nil negative
  rw [List.append_nil] at hwrites
  refine ⟨_, hwrites, ?_⟩
  have hnumeral : Text.numeral (ds ++ zeros k ++ []) = ds.numeral * 10 ^ k := by
    rw [List.append_nil, Text.numeral_append, Text.numeral_zeros, zeros, List.length_replicate,
      Nat.mul_comm, Nat.add_zero]
  simp only [Numeral.value, hnumeral]
  rw [Double.ofDecimal_mul_ten_pow (numeral_ne_zero h)]
  congr 1
  simp

/-- A point between the digits. -/
theorem writes_split {ds : Text} (h : IsLeading ds) {w : Nat} (hw : 0 < w) (hlt : w < ds.length)
    (negative : Bool) :
    ∃ n, Writes (signText negative ++ (ds.take w ++ Text.unit '.' :: ds.drop w)) n ∧
      n.value = Double.ofDecimal negative ds.numeral (w - ds.length) := by
  have hwhole : IsWhole (ds.take w) := by
    refine ⟨fun u hu => h.digits u (List.mem_of_mem_take hu), ?_, fun _ => ?_⟩
    · simp only [ne_eq, List.take_eq_nil_iff, h.ne_nil, or_false]
      omega
    · rw [List.head?_take, if_neg (by omega)]
      exact h.head
  have hfraction : ∀ u ∈ ds.drop w, Text.isDigit u = true := fun u hu =>
    h.digits u (List.mem_of_mem_drop hu)
  have hne : ds.drop w ≠ [] := by
    simp only [ne_eq, List.drop_eq_nil_iff]
    omega
  have hwrites := writes_point hwhole hfraction hne isEnding_nil negative
  rw [List.append_nil] at hwrites
  refine ⟨_, hwrites, ?_⟩
  simp only [Numeral.value, List.take_append_drop, List.length_drop]
  congr 1
  omega

/-- An exponent. -/
theorem writes_scientific {ds : Text} (h : IsLeading ds) (point : Int) (negative : Bool) :
    ∃ n, Writes (signText negative ++ (Double.Digits.mk ds point).scientific) n ∧
      n.value = Double.ofDecimal negative ds.numeral (point - ds.length) := by
  have hending := isEnding_exponent (point - 1)
  unfold Double.Digits.scientific
  match ds, h with
  | [], h => exact absurd rfl h.ne_nil
  | [u], h =>
    refine ⟨_, writes_whole h.isWhole hending negative, ?_⟩
    simp only [Numeral.value, List.append_nil]
    congr 1
    simp
  | u :: v :: rest, h =>
    have hwhole : IsWhole [u] :=
      ⟨fun w hw => h.digits w (by simp [List.mem_singleton.1 hw]), by simp, by simp⟩
    have hfraction : ∀ w ∈ v :: rest, Text.isDigit w = true := fun w hw =>
      h.digits w (List.mem_cons_of_mem _ hw)
    refine ⟨_, writes_point hwhole hfraction (by simp) hending negative, ?_⟩
    simp only [Numeral.value, List.singleton_append, List.length_cons]
    congr 1
    omega

/-- Whatever the place of the point, some digits are laid out as a numeral with their value. -/
theorem writes_layout {ds : Text} (h : IsLeading ds) (point : Int) (negative : Bool) :
    ∃ n, Writes (signText negative ++ (Double.Digits.mk ds point).layout) n ∧
      n.value = Double.ofDecimal negative ds.numeral (point - ds.length) := by
  unfold Double.Digits.layout
  simp only
  split_ifs with hsmall hlarge hfits
  · have hk : (-((-point).toNat : Int)) = point := by omega
    have hwrites := writes_small h (-point).toNat negative
    rwa [hk] at hwrites
  · have hk : ((point.toNat - ds.length : Nat) : Int) = point - ds.length := by omega
    have hwrites := writes_large h (point.toNat - ds.length) negative
    rwa [hk] at hwrites
  · have hk : ((point.toNat : Nat) : Int) = point := by omega
    have hwrites := writes_split h (w := point.toNat) (by omega) (by omega) negative
    rwa [hk] at hwrites
  · exact writes_scientific h point negative

/-! ## Texts of numbers -/

/-- The numeral of a number is its digits without the zeros at the end, and those zeros. -/
theorem exists_ofNat_eq {m : Nat} (hm : m ≠ 0) (e : Int) :
    let ds := (Double.Digits.ofScaled m e).digits
    IsLeading ds ∧ ∃ k, Text.ofNat m = ds ++ zeros k := by
  intro ds
  let isZero : UInt16 → Bool := (· == Text.unit '0')
  have hsplit : Text.ofNat m = ds ++ ((Text.ofNat m).reverse.takeWhile isZero).reverse := by
    change Text.ofNat m = ((Text.ofNat m).reverse.dropWhile isZero).reverse ++ _
    rw [← List.reverse_append, List.takeWhile_append_dropWhile, List.reverse_reverse]
  have hzeros : ∀ u ∈ ((Text.ofNat m).reverse.takeWhile isZero).reverse, u = Text.unit '0' := by
    intro u hu
    exact beq_iff_eq.1 (List.all_eq_true.1 List.all_takeWhile u (List.mem_reverse.1 hu))
  rw [List.eq_replicate_of_mem hzeros] at hsplit
  have hne : ds ≠ [] := by
    intro hnil
    have hvalue := congrArg Text.numeral hsplit
    rw [hnil, List.nil_append, Text.numeral_ofNat] at hvalue
    exact hm (hvalue.trans (Text.numeral_zeros _))
  refine ⟨⟨fun u hu => ?_, hne, ?_⟩, _, hsplit⟩
  · refine Text.isDigit_of_mem_ofNat (n := m) ?_
    rw [hsplit]
    exact List.mem_append_left _ hu
  · rw [← List.head?_append_of_ne_nil _ hne, ← hsplit]
    exact Text.head?_ofNat_ne hm

/-- A decimal is laid out as a numeral that is read as the number nearest to it. -/
theorem writes_ofScaled {m : Nat} (hm : m ≠ 0) (e : Int) (negative : Bool) :
    ∃ n, Writes (signText negative ++ (Double.Digits.ofScaled m e).layout) n ∧
      n.value = Double.ofDecimal negative m e := by
  obtain ⟨hleading, k, hsplit⟩ := exists_ofNat_eq hm e
  obtain ⟨n, hwrites, hvalue⟩ := writes_layout hleading (Double.Digits.ofScaled m e).point negative
  refine ⟨n, hwrites, hvalue.trans ?_⟩
  have hnumeral : m = (Double.Digits.ofScaled m e).digits.numeral * 10 ^ k := by
    have h := congrArg Text.numeral hsplit
    rw [Text.numeral_ofNat, Text.numeral_append, Text.numeral_zeros, zeros,
      List.length_replicate, Nat.mul_comm, Nat.add_zero] at h
    exact h
  have hpoint : (Double.Digits.ofScaled m e).point -
      ((Double.Digits.ofScaled m e).digits.length : Int) = e + k := by
    have hlength := congrArg List.length hsplit
    rw [List.length_append, zeros, List.length_replicate] at hlength
    have hdef : (Double.Digits.ofScaled m e).point = (Text.ofNat m).length + e := rfl
    omega
  rw [hpoint, ← Double.ofDecimal_mul_ten_pow (numeral_ne_zero hleading), ← hnumeral]

theorem ofWord?_of_writes {w : Text} {n : Numeral} (h : Writes w n) :
    ofWord? w = some (number n.value) := by
  have hne (name : Text) (hname : numeral? name = none) : w ≠ name := by
    rintro rfl
    rw [h.read] at hname
    cases hname
  simp only [ofWord?, hne "null" (by decide), hne "true" (by decide), hne "false" (by decide),
    if_false, h.read, Option.map_some]

/-- A finite number is read back from its text unless it is minus zero. -/
theorem readsBack_of_isFinite {x : Double} (hx : x.isFinite = true)
    (hzero : x ≠ .ofUnits true 0) : ReadsBack x := by
  have htext : renderNumber x = x.toText := by rw [renderNumber, hx, if_pos rfl]
  unfold ReadsBack
  rw [htext]
  cases x with
  | nan => cases hx
  | infinite negative => cases hx
  | finite negative exponent fraction =>
    rw [Double.toText]
    cases hz : (Double.finite negative exponent fraction).isZero with
    | true =>
      rw [if_pos rfl, Double.eq_of_isZero hz]
      rw [Double.eq_of_isZero hz] at hzero
      cases negative with
      | true => exact absurd rfl hzero
      | false =>
        have hwrites := writes_whole isWhole_zero isEnding_nil false
        exact ⟨hwrites.word, ofWord?_of_writes hwrites⟩
    | false =>
      have hne := Double.units_ne_zero hz
      have hshort := Double.ofDecimal_shortest rfl hne
      have hpos := Double.shortest_ne_zero rfl hne
      rw [if_neg (by decide)]
      -- The digits stay behind a name: their computation is of no concern here.
      generalize (Double.finite negative exponent fraction).shortest = shortest at hshort hpos ⊢
      obtain ⟨m, e⟩ := shortest
      obtain ⟨n, hwrites, hvalue⟩ := writes_ofScaled hpos e negative
      have hread := ofWord?_of_writes hwrites
      rw [hvalue, hshort] at hread
      exact ⟨hwrites.word, hread⟩

end Json

end ConfigClient
