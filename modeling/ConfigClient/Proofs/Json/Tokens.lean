import ConfigClient.Json
import ConfigClient.Proofs.Json.Quote
import ConfigClient.Proofs.Members

/-!
# The tokens of a printed value

A value that can be printed without loss is printed as the texts of its tokens, and the scanner
takes that text apart into the same tokens again. Only a word needs something after it that ends it.

* `Legible`: the values that can be printed without loss.
* `tokens`: the tokens of a value.
* `Scans`, `ScansOpen`: a text is taken apart into given tokens, whatever follows or if what follows
  ends a word.
* `scan_render`: the tokens of a printed value.
-/

namespace ConfigClient

namespace Json

namespace Token

/-! ## Words -/

/-- Whether a unit can stand in a word. -/
def IsWordUnit (u : UInt16) : Prop :=
  isBlank u = false ∧ u ≠ Text.unit '"' ∧ punctuation? u = none

instance (u : UInt16) : Decidable (IsWordUnit u) :=
  inferInstanceAs (Decidable (isBlank u = false ∧ u ≠ Text.unit '"' ∧ punctuation? u = none))

/-- Whether a text is one word. -/
def IsWord (w : Text) : Prop := w ≠ [] ∧ ∀ u ∈ w, IsWordUnit u

theorem isWord_of_all {w : Text} (hne : w ≠ []) (h : w.all (decide <| IsWordUnit ·) = true) :
    IsWord w := by
  refine ⟨hne, fun u hu => ?_⟩
  exact of_decide_eq_true (List.all_eq_true.1 h u hu)

/-- Whether a word ends where the text begins. -/
def EndsWord (rest : Text) : Prop := ∀ u ∈ rest.head?, ¬IsWordUnit u

theorem endsWord_nil : EndsWord [] := by
  intro u hu
  cases hu

theorem stepOutside_of_isWordUnit {u : UInt16} (h : IsWordUnit u) (word : Option Text) :
    Mode.stepOutside word u = ([], .word (u :: word.getD [])) := by
  obtain ⟨hblank, hquote, hmark⟩ := h
  simp only [Mode.stepOutside, hblank, hquote, hmark, Bool.false_eq_true, if_false]

/-- A unit that ends a word does to what follows what it does between the tokens. -/
theorem stepOutside_of_not_isWordUnit {u : UInt16} (h : ¬IsWordUnit u) (done : Text) :
    Mode.stepOutside (some done) u =
      (.word done.reverse :: (Mode.stepOutside none u).1, (Mode.stepOutside none u).2) := by
  unfold Mode.stepOutside
  split_ifs with hblank hquote
  · rfl
  · rfl
  · cases hmark : punctuation? u with
    | none => exact absurd ⟨by simpa using hblank, hquote, hmark⟩ h
    | some mark => rfl

theorem scanFrom_word_of_endsWord {rest : Text} (h : EndsWord rest) (done : Text) :
    scanFrom (.word done) rest = (scanFrom .between rest).map (.word done.reverse :: ·) := by
  cases rest with
  | nil => rfl
  | cons u rest =>
    have hu : ¬IsWordUnit u := h u rfl
    have hword : (Mode.word done).step u = some (Mode.stepOutside (some done) u) := rfl
    have hbetween : Mode.between.step u = some (Mode.stepOutside none u) := rfl
    rw [stepOutside_of_not_isWordUnit hu] at hword
    rw [scanFrom_cons hword, scanFrom_cons hbetween, Option.map_map]
    rfl

theorem scanFrom_word_append {w : Text} (hw : ∀ u ∈ w, IsWordUnit u) (done rest : Text) :
    scanFrom (.word done) (w ++ rest) = scanFrom (.word (w.reverse ++ done)) rest := by
  induction w generalizing done with
  | nil => rfl
  | cons u w ih =>
    have hu := stepOutside_of_isWordUnit (hw u List.mem_cons_self) (some done)
    have hstep : (Mode.word done).step u = some ([], .word (u :: done)) := congrArg some hu
    rw [List.cons_append, scanFrom_cons_silent hstep,
      ih fun v hv => hw v (List.mem_cons_of_mem _ hv)]
    simp

/-! ## Taking a text apart -/

/-- Whether a text is taken apart into given tokens, whatever follows. -/
def Scans (t : Text) (ts : List Token) : Prop :=
  ∀ rest, scanFrom .between (t ++ rest) = (scanFrom .between rest).map (ts ++ ·)

/-- Whether a text is taken apart into given tokens if what follows ends a word. -/
def ScansOpen (t : Text) (ts : List Token) : Prop :=
  ∀ rest, EndsWord rest → scanFrom .between (t ++ rest) = (scanFrom .between rest).map (ts ++ ·)

theorem Scans.isOpen {t : Text} {ts : List Token} (h : Scans t ts) : ScansOpen t ts :=
  fun rest _ => h rest

theorem Scans.append {t t' : Text} {ts ts' : List Token} (h : Scans t ts) (h' : Scans t' ts') :
    Scans (t ++ t') (ts ++ ts') := by
  intro rest
  rw [List.append_assoc, h, h', Option.map_map]
  congr 1
  funext done
  simp

theorem Scans.append_open {t t' : Text} {ts ts' : List Token} (h : Scans t ts)
    (h' : ScansOpen t' ts') : ScansOpen (t ++ t') (ts ++ ts') := by
  intro rest hrest
  rw [List.append_assoc, h, h' rest hrest, Option.map_map]
  congr 1
  funext done
  simp

theorem scans_nil : Scans [] [] := by
  intro rest
  simp

theorem scans_quote (t : Text) : Scans (quote t) [.string t] := fun rest => scanFrom_quote t rest

theorem scansOpen_word {w : Text} (hw : IsWord w) : ScansOpen w [.word w] := by
  intro rest hrest
  obtain ⟨hne, hunits⟩ := hw
  cases w with
  | nil => exact absurd rfl hne
  | cons u w =>
    have hu := stepOutside_of_isWordUnit (hunits u List.mem_cons_self) none
    have hstep : Mode.between.step u = some ([], .word [u]) := congrArg some hu
    rw [List.cons_append, scanFrom_cons_silent hstep,
      scanFrom_word_append fun v hv => hunits v (List.mem_cons_of_mem _ hv),
      scanFrom_word_of_endsWord hrest]
    simp

/-- The six marks. -/
def IsMark (u : UInt16) (mark : Token) : Prop :=
  Mode.stepOutside none u = ([mark], .between)

theorem IsMark.scans {u : UInt16} {mark : Token} (h : IsMark u mark) : Scans [u] [mark] := by
  intro rest
  have hstep : Mode.between.step u = some ([mark], .between) := congrArg some h
  exact scanFrom_cons hstep rest

theorem IsMark.endsWord {u : UInt16} {mark : Token} (h : IsMark u mark) (rest : Text) :
    EndsWord (u :: rest) := by
  rintro v ⟨⟩ hword
  rw [IsMark, stepOutside_of_isWordUnit hword] at h
  cases h

/-- A mark ends the word before it. -/
theorem ScansOpen.append_mark {t : Text} {ts : List Token} (h : ScansOpen t ts) {u : UInt16}
    {mark : Token} (hmark : IsMark u mark) : Scans (t ++ [u]) (ts ++ [mark]) := by
  intro rest
  rw [List.append_assoc, h ([u] ++ rest) (hmark.endsWord rest), hmark.scans, Option.map_map]
  congr 1
  funext done
  simp

theorem isMark_arrayOpen : IsMark (Text.unit '[') .arrayOpen := rfl

theorem isMark_arrayClose : IsMark (Text.unit ']') .arrayClose := rfl

theorem isMark_objectOpen : IsMark (Text.unit '\x7b') .objectOpen := rfl

theorem isMark_objectClose : IsMark (Text.unit '\x7d') .objectClose := rfl

theorem isMark_comma : IsMark (Text.unit ',') .comma := rfl

theorem isMark_colon : IsMark (Text.unit ':') .colon := rfl

end Token

/-! ## Values -/

open Token

/-- Whether the text of a number is a word that denotes it. -/
def ReadsBack (x : Double) : Prop :=
  IsWord (renderNumber x) ∧ ofWord? (renderNumber x) = some (number x)

/-- The values that can be printed without loss: the numbers in them read back, and the members of
an object have distinct keys in the order of an object. -/
inductive Legible : Json → Prop
  | null : Legible null
  | bool (b : Bool) : Legible (bool b)
  | number {x : Double} (h : ReadsBack x) : Legible (number x)
  | string (t : Text) : Legible (string t)
  | array {items : List Json} (h : ∀ j ∈ items, Legible j) : Legible (array items)
  | object {members : List (Text × Json)} (ordered : Members.Ordered members)
    (h : ∀ m ∈ members, Legible m.2) : Legible (object members)

mutual

/-- The tokens of a value. -/
def tokens : Json → List Token
  | null => [.word "null"]
  | bool true => [.word "true"]
  | bool false => [.word "false"]
  | number x => [.word (renderNumber x)]
  | string t => [.string t]
  | array items => .arrayOpen :: itemTokens items ++ [.arrayClose]
  | object members => .objectOpen :: memberTokens members ++ [.objectClose]

/-- The tokens of the items of an array. -/
def itemTokens : List Json → List Token
  | [] => []
  | [v] => tokens v
  | v :: w :: rest => tokens v ++ .comma :: itemTokens (w :: rest)

/-- The tokens of the members of an object. -/
def memberTokens : List (Text × Json) → List Token
  | [] => []
  | [(k, v)] => .string k :: .colon :: tokens v
  | (k, v) :: m :: rest =>
    .string k :: .colon :: tokens v ++ .comma :: memberTokens (m :: rest)

end

/-- The items of an array, if each of them is taken apart into its tokens. -/
theorem scansOpen_renderItems {items : List Json}
    (h : ∀ j ∈ items, ScansOpen (render j) (tokens j)) :
    ScansOpen (renderItems items) (itemTokens items) := by
  induction items with
  | nil => exact scans_nil.isOpen
  | cons v items ih =>
    have hv := h v List.mem_cons_self
    cases items with
    | nil => exact hv
    | cons w rest =>
      have hrest := ih fun j hj => h j (List.mem_cons_of_mem _ hj)
      have hitems := (hv.append_mark isMark_comma).append_open hrest
      rw [List.append_assoc _ [Text.unit ','], List.append_assoc _ [Token.comma]] at hitems
      exact hitems

/-- A key with its colon. -/
theorem scans_key (k : Text) : Scans (quote k ++ [Text.unit ':']) [.string k, .colon] :=
  (scans_quote k).isOpen.append_mark isMark_colon

/-- The members of an object, if the value of each of them is taken apart into its tokens. -/
theorem scansOpen_renderMembers {members : List (Text × Json)}
    (h : ∀ m ∈ members, ScansOpen (render m.2) (tokens m.2)) :
    ScansOpen (renderMembers members) (memberTokens members) := by
  induction members with
  | nil => exact scans_nil.isOpen
  | cons m members ih =>
    obtain ⟨k, v⟩ := m
    have hm := (scans_key k).append_open (h (k, v) List.mem_cons_self)
    rw [List.append_assoc] at hm
    cases members with
    | nil => exact hm
    | cons m rest =>
      have hrest := ih fun n hn => h n (List.mem_cons_of_mem _ hn)
      have hmembers := (hm.append_mark isMark_comma).append_open hrest
      rw [List.append_assoc _ [Text.unit ','], List.append_assoc _ [Token.comma]] at hmembers
      exact hmembers

theorem isWord_null : IsWord "null" := isWord_of_all (by decide) (by decide)

theorem isWord_true : IsWord "true" := isWord_of_all (by decide) (by decide)

theorem isWord_false : IsWord "false" := isWord_of_all (by decide) (by decide)

theorem scansOpen_render {j : Json} (hj : Legible j) : ScansOpen (render j) (tokens j) := by
  induction hj with
  | null => exact scansOpen_word isWord_null
  | bool b =>
    cases b with
    | true => exact scansOpen_word isWord_true
    | false => exact scansOpen_word isWord_false
  | number h => exact scansOpen_word h.1
  | string t => exact (scans_quote t).isOpen
  | array h ih =>
    have hitems := (scansOpen_renderItems ih).append_mark isMark_arrayClose
    exact (isMark_arrayOpen.scans.append hitems).isOpen
  | object ordered h ih =>
    have hmembers := (scansOpen_renderMembers ih).append_mark isMark_objectClose
    exact (isMark_objectOpen.scans.append hmembers).isOpen

theorem scan_render {j : Json} (hj : Legible j) : scan (render j) = some (tokens j) := by
  have h := scansOpen_render hj [] endsWord_nil
  rw [List.append_nil] at h
  rw [scan, h]
  exact congrArg some (List.append_nil _)

end Json

end ConfigClient
