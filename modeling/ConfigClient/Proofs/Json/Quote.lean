import ConfigClient.Json
import Mathlib.Tactic.SplitIfs

/-!
# Quoted strings

The reader of tokens takes back what the printer has quoted: quotes, backslashes, control characters
and lone surrogates come back from their escapes, and every other unit, surrogate pairs included,
stands for itself.

* `scanFrom_hexEscape`, `scanFrom_quoteUnit`: one unit.
* `scanFrom_quoteUnits`: the inside of a string.
* `scanFrom_quote`: a string with its quotes is one token.
-/

namespace ConfigClient

namespace Json

namespace Token

/-! ## Single steps -/

theorem scanFrom_cons {mode mode' : Mode} {u : UInt16} {done : List Token}
    (h : mode.step u = some (done, mode')) (rest : Text) :
    scanFrom mode (u :: rest) = (scanFrom mode' rest).map (done ++ ·) := by
  simp only [scanFrom, h, Option.bind_eq_bind, Option.bind_some]
  cases scanFrom mode' rest <;> rfl

/-- A unit that completes no token. -/
theorem scanFrom_cons_silent {mode mode' : Mode} {u : UInt16}
    (h : mode.step u = some ([], mode')) (rest : Text) :
    scanFrom mode (u :: rest) = scanFrom mode' rest := by
  rw [scanFrom_cons h]
  cases scanFrom mode' rest <;> rfl

/-- Whether a unit stands for itself in a string. -/
def IsPlain (u : UInt16) : Prop :=
  ¬u < 0x20 ∧ u ≠ Text.unit '"' ∧ u ≠ Text.unit '\\'

theorem scanFrom_plain {u : UInt16} (h : IsPlain u) (done rest : Text) :
    scanFrom (.quoted done) (u :: rest) = scanFrom (.quoted (u :: done)) rest := by
  obtain ⟨hcontrol, hquote, hslash⟩ := h
  apply scanFrom_cons_silent
  simp only [Mode.step, if_neg hcontrol, if_neg hquote, if_neg hslash]

theorem isPlain_of_le {u : UInt16} (h : 0xD800 ≤ u) : IsPlain u := by
  refine ⟨?_, ?_, ?_⟩
  · intro hlt
    exact absurd (UInt16.lt_of_le_of_lt h hlt) (by decide)
  · rintro rfl
    exact absurd h (by decide)
  · rintro rfl
    exact absurd h (by decide)

theorem isPlain_of_isHigh {u : UInt16} (h : Text.isHigh u = true) : IsPlain u := by
  rw [Text.isHigh, Bool.and_eq_true] at h
  exact isPlain_of_le (of_decide_eq_true h.1)

theorem isPlain_of_isLow {u : UInt16} (h : Text.isLow u = true) : IsPlain u := by
  rw [Text.isLow, Bool.and_eq_true] at h
  exact isPlain_of_le (UInt16.le_trans (by decide) (of_decide_eq_true h.1))

/-! ## Escapes -/

theorem scanFrom_backslash (done rest : Text) :
    scanFrom (.quoted done) (Text.unit '\\' :: rest) = scanFrom (.escaped done) rest :=
  scanFrom_cons_silent rfl rest

theorem scanFrom_hexStart (done rest : Text) :
    scanFrom (.escaped done) (Text.unit 'u' :: rest) = scanFrom (.hex 4 0 done) rest :=
  scanFrom_cons_silent rfl rest

/-- An escape of one letter. -/
theorem scanFrom_escape {u v : UInt16} (hu : u ≠ Text.unit 'u') (hv : escape? u = some v)
    (done rest : Text) :
    scanFrom (.quoted done) (Text.unit '\\' :: u :: rest) =
      scanFrom (.quoted (v :: done)) rest := by
  rw [scanFrom_backslash]
  apply scanFrom_cons_silent
  simp only [Mode.step, if_neg hu, hv, Option.map_some]

theorem hexValue?_hexUnit : ∀ d < 16, hexValue? (hexUnit d) = some d := by decide

/-- A digit of an escape that is not the last one. -/
theorem scanFrom_hexUnit {d : Nat} (hd : d < 16) (missing value : Nat) (done rest : Text) :
    scanFrom (.hex (missing + 2) value done) (hexUnit d :: rest) =
      scanFrom (.hex (missing + 1) (16 * value + d) done) rest := by
  apply scanFrom_cons_silent
  have hmissing : ¬missing + 2 ≤ 1 := by omega
  simp only [Mode.step, hexValue?_hexUnit d hd, Option.map_some, if_neg hmissing]
  rfl

theorem scanFrom_hexUnit_last {d : Nat} (hd : d < 16) (value : Nat) (done rest : Text) :
    scanFrom (.hex 1 value done) (hexUnit d :: rest) =
      scanFrom (.quoted ((16 * value + d).toUInt16 :: done)) rest := by
  apply scanFrom_cons_silent
  simp only [Mode.step, hexValue?_hexUnit d hd, Option.map_some, Nat.le_refl, if_true]

theorem scanFrom_hexEscape (u : UInt16) (done rest : Text) :
    scanFrom (.quoted done) (hexEscape u ++ rest) = scanFrom (.quoted (u :: done)) rest := by
  have hlt : u.toNat < 65536 := u.toNat_lt
  have h1 : u.toNat / 4096 < 16 := by omega
  have h2 : u.toNat / 256 % 16 < 16 := by omega
  have h3 : u.toNat / 16 % 16 < 16 := by omega
  have h4 : u.toNat % 16 < 16 := by omega
  have hvalue : 16 * (16 * (16 * (16 * 0 + u.toNat / 4096) + u.toNat / 256 % 16) +
      u.toNat / 16 % 16) + u.toNat % 16 = u.toNat := by omega
  have hunit : u.toNat.toUInt16 = u := UInt16.ofNat_toNat
  simp only [hexEscape, List.cons_append, List.nil_append]
  rw [scanFrom_backslash, scanFrom_hexStart, scanFrom_hexUnit h1, scanFrom_hexUnit h2,
    scanFrom_hexUnit h3, scanFrom_hexUnit_last h4, hvalue, hunit]

/-! ## Whole strings -/

theorem scanFrom_quoteUnit (u : UInt16) (done rest : Text) :
    scanFrom (.quoted done) (quoteUnit u ++ rest) = scanFrom (.quoted (u :: done)) rest := by
  unfold quoteUnit
  split_ifs with hquote hslash hb hf hn hr ht hcontrol
  · rw [hquote]
    exact scanFrom_escape (by decide) rfl done rest
  · rw [hslash]
    exact scanFrom_escape (by decide) rfl done rest
  · rw [hb]
    exact scanFrom_escape (by decide) rfl done rest
  · rw [hf]
    exact scanFrom_escape (by decide) rfl done rest
  · rw [hn]
    exact scanFrom_escape (by decide) rfl done rest
  · rw [hr]
    exact scanFrom_escape (by decide) rfl done rest
  · rw [ht]
    exact scanFrom_escape (by decide) rfl done rest
  · exact scanFrom_hexEscape u done rest
  · exact scanFrom_plain ⟨hcontrol, hquote, hslash⟩ done rest

/-- A unit that does not belong to a surrogate pair. -/
theorem scanFrom_single (u : UInt16) (done rest : Text) :
    scanFrom (.quoted done)
        ((if Text.isHigh u || Text.isLow u then hexEscape u else quoteUnit u) ++ rest) =
      scanFrom (.quoted (u :: done)) rest := by
  split_ifs
  · exact scanFrom_hexEscape u done rest
  · exact scanFrom_quoteUnit u done rest

theorem scanFrom_quoteUnits (t done rest : Text) :
    scanFrom (.quoted done) (quoteUnits t ++ rest) =
      scanFrom (.quoted (t.reverse ++ done)) rest := by
  induction t using quoteUnits.induct generalizing done with
  | case1 => rfl
  | case2 u h =>
    rw [quoteUnits, scanFrom_single]
    rfl
  | case3 u h =>
    rw [quoteUnits, scanFrom_single]
    rfl
  | case4 u v t hpair ih =>
    have hboth := hpair
    rw [Bool.and_eq_true] at hboth
    rw [quoteUnits, if_pos hpair, List.cons_append, List.cons_append,
      scanFrom_plain (isPlain_of_isHigh hboth.1), scanFrom_plain (isPlain_of_isLow hboth.2), ih]
    simp
  | case5 u v t hpair ih =>
    rw [quoteUnits, if_neg hpair, List.append_assoc, scanFrom_single, ih]
    simp

/-- A quoted string is read as one token. -/
theorem scanFrom_quote (t rest : Text) :
    scanFrom .between (quote t ++ rest) = (scanFrom .between rest).map (.string t :: ·) := by
  have hopen : Mode.between.step (Text.unit '"') = some ([], .quoted []) := rfl
  have hclose : (Mode.quoted (t.reverse ++ [])).step (Text.unit '"') =
      some ([.string t], .between) := by
    have hcontrol : ¬Text.unit '"' < 0x20 := by decide
    simp only [Mode.step, if_neg hcontrol, if_true, List.append_nil, List.reverse_reverse]
  rw [quote, List.cons_append, List.cons_append, List.append_assoc, scanFrom_cons_silent hopen,
    scanFrom_quoteUnits, List.cons_append, scanFrom_cons hclose]
  rfl

end Token

end Json

end ConfigClient
