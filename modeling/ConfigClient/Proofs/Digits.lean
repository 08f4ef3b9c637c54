import ConfigClient.Double
import Mathlib.Data.List.Basic
import Mathlib.Tactic.Ring

/-!
# Decimal numerals

The numeral of a number consists of digits, has no zero in front unless the number is zero, and
names that number again. Zeros put behind it multiply by a power of ten.

* `numeral_ofNat`: a number is read back from its numeral.
* `numeral_append`: what two runs of digits one after the other name.
* `ofNat_mul_ten_pow`: the numeral of a multiple of a power of ten.
-/

namespace ConfigClient

namespace Text

open Double (zeros)

/-! ## Units of digits -/

theorem toNat_unit_of_isDigit {c : Char} (h : c.isDigit = true) :
    (unit c).toNat = c.toNat ∧ isDigit (unit c) = true := by
  have hc : 48 ≤ c.toNat ∧ c.toNat ≤ 57 := by
    simp only [Char.isDigit, Bool.and_eq_true, decide_eq_true_eq, UInt32.le_iff_toNat_le,
      ge_iff_le] at h
    exact h
  have hunit : (unit c).toNat = c.toNat := by
    unfold unit
    rw [Nat.toUInt16_eq, UInt16.toNat_ofNat']
    omega
  refine ⟨hunit, ?_⟩
  simp only [isDigit, Bool.and_eq_true, decide_eq_true_eq, UInt16.le_iff_toNat_le, hunit]
  exact hc

theorem isDigit_of_mem_ofNat {n : Nat} {u : UInt16} (h : u ∈ ofNat n) : isDigit u = true := by
  obtain ⟨c, hc, rfl⟩ := List.mem_map.1 h
  exact (toNat_unit_of_isDigit (Nat.isDigit_of_mem_toDigits (by decide) (by decide) hc)).2

theorem ofNat_ne_nil (n : Nat) : ofNat n ≠ [] := by
  unfold ofNat
  simp [Nat.toDigits_ne_nil]

/-- Only the numeral of zero has a zero in front. -/
theorem head?_ofNat_ne {n : Nat} (h : n ≠ 0) : (ofNat n).head? ≠ some (unit '0') := by
  induction n using Nat.strongRecOn with
  | ind n ih =>
    unfold ofNat at ih ⊢
    rw [Nat.toDigits_eq_if (by decide)]
    split
    · rename_i hlt
      have hdigits : ∀ d < 10, d ≠ 0 → unit (Nat.digitChar d) ≠ unit '0' := by decide
      simpa using hdigits n hlt h
    · rename_i hge
      have hhead := ih (n / 10) (by omega) (by omega)
      rwa [List.map_append, List.head?_append_of_ne_nil _ (by simp [Nat.toDigits_ne_nil])]

/-! ## What digits name -/

theorem foldl_digits (ds : Text) (n : Nat) :
    ds.foldl (fun n u => 10 * n + (u.toNat - 48)) n = 10 ^ ds.length * n + numeral ds := by
  unfold numeral
  induction ds generalizing n with
  | nil => simp
  | cons u ds ih =>
    rw [List.foldl_cons, ih, List.foldl_cons, ih (10 * 0 + _), List.length_cons]
    ring

theorem numeral_append (ds es : Text) :
    numeral (ds ++ es) = 10 ^ es.length * numeral ds + numeral es := by
  rw [numeral, List.foldl_append, foldl_digits]
  rfl

theorem numeral_zeros (k : Nat) : numeral (zeros k) = 0 := by
  induction k with
  | zero => rfl
  | succ k ih =>
    rw [zeros, List.replicate_succ']
    change numeral (zeros k ++ [unit '0']) = 0
    rw [numeral_append, ih]
    rfl

theorem numeral_cons_zero (ds : Text) : numeral (unit '0' :: ds) = numeral ds := by
  change numeral ([unit '0'] ++ ds) = _
  rw [numeral_append]
  simp [numeral, unit]

/-- A number is read back from its numeral. -/
theorem numeral_ofNat (n : Nat) : numeral (ofNat n) = n := by
  have hread : ∀ cs : List Char, (∀ c ∈ cs, c.isDigit = true) →
      ∀ m, (cs.map unit).foldl (fun n u => 10 * n + (u.toNat - 48)) m =
        Nat.ofDigitChars 10 cs m := by
    intro cs
    induction cs with
    | nil => intro _ m; rfl
    | cons c cs ih =>
      intro hcs m
      have hc := (toNat_unit_of_isDigit (hcs c List.mem_cons_self)).1
      rw [List.map_cons, List.foldl_cons, hc, ih fun d hd => hcs d (List.mem_cons_of_mem _ hd)]
      rfl
  unfold numeral ofNat
  rw [hread _ fun c hc => Nat.isDigit_of_mem_toDigits (by decide) (by decide) hc]
  exact Nat.ofDigitChars_ten_toDigits

/-- Zeros behind a numeral multiply by a power of ten. -/
theorem ofNat_mul_ten_pow {n : Nat} (h : n ≠ 0) (k : Nat) :
    ofNat (n * 10 ^ k) = ofNat n ++ zeros k := by
  induction k with
  | zero => simp [zeros]
  | succ k ih =>
    have hpos : 0 < n * 10 ^ k := Nat.mul_pos (Nat.pos_of_ne_zero h) (Nat.pow_pos (by decide))
    have hdigits := Nat.toDigits_append_toDigits (b := 10) (d := 0) (by decide) hpos (by decide)
    have hnumeral : ofNat (n * 10 ^ (k + 1)) = ofNat (n * 10 ^ k) ++ [unit '0'] := by
      rw [show n * 10 ^ (k + 1) = 10 * (n * 10 ^ k) + 0 by ring]
      unfold ofNat
      rw [← hdigits, List.map_append]
      rfl
    rw [hnumeral, ih, List.append_assoc, zeros, zeros, List.replicate_succ']

end Text

end ConfigClient
