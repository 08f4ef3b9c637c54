import ConfigClient.Proofs.Json.Number

/-!
# Values with finite numbers

What a program holds as a JSON value has finite numbers, and distinct keys in the order of an
object. Printing loses nothing of it but the signs of zeros.

* `WellFormed`: finite numbers and ordered members at any depth.
* `plain`: a value without the signs of its zeros.
* `parse?_render_of_wellFormed`: a well-formed value is read back without the signs of its zeros.
-/

namespace ConfigClient

namespace Double

/-- A number, without the sign if it is zero. -/
def plain (x : Double) : Double := if x.isZero then ofUnits false 0 else x

theorem isFinite_plain (x : Double) : x.plain.isFinite = x.isFinite := by
  cases x with
  | nan => rfl
  | infinite negative => rfl
  | finite negative exponent fraction =>
    unfold plain
    split_ifs <;> rfl

theorem plain_ne (x : Double) : x.plain ≠ ofUnits true 0 := by
  unfold plain
  split_ifs with hz
  · exact nofun
  · rintro rfl
    exact hz rfl

theorem toText_plain (x : Double) : x.plain.toText = x.toText := by
  cases x with
  | nan => rfl
  | infinite negative => rfl
  | finite negative exponent fraction =>
    unfold plain
    split_ifs with hz
    · have hzero : (ofUnits false 0).toText = "0" := rfl
      rw [hzero, toText, if_pos hz]
    · rfl

end Double

namespace Json

/-! ## Well-formed values -/

/-- The values that a program can hold: their numbers are finite, and the members of an object have
distinct keys in the order of an object. -/
inductive WellFormed : Json → Prop
  | null : WellFormed null
  | bool (b : Bool) : WellFormed (bool b)
  | number {x : Double} (h : x.isFinite = true) : WellFormed (number x)
  | string (t : Text) : WellFormed (string t)
  | array {items : List Json} (h : ∀ j ∈ items, WellFormed j) : WellFormed (array items)
  | object {members : List (Text × Json)} (ordered : Members.Ordered members)
    (h : ∀ m ∈ members, WellFormed m.2) : WellFormed (object members)

/-! ## Signs of zeros -/

mutual

/-- A value without the signs of its zeros. -/
def plain : Json → Json
  | null => null
  | bool b => bool b
  | number x => number x.plain
  | string t => string t
  | array items => array (plainItems items)
  | object members => object (plainMembers members)

/-- The same for items. -/
def plainItems : List Json → List Json
  | [] => []
  | v :: rest => plain v :: plainItems rest

/-- The same for members. -/
def plainMembers : List (Text × Json) → List (Text × Json)
  | [] => []
  | (k, v) :: rest => (k, plain v) :: plainMembers rest

end

theorem plainItems_eq_map (items : List Json) : plainItems items = items.map plain := by
  induction items with
  | nil => rfl
  | cons v rest ih => rw [plainItems, ih, List.map_cons]

theorem plainMembers_eq_map (members : List (Text × Json)) :
    plainMembers members = members.map fun m => (m.1, plain m.2) := by
  induction members with
  | nil => rfl
  | cons m rest ih => rw [plainMembers, ih, List.map_cons]

theorem get?_plainMembers (members : Members Json) (key : Text) :
    Members.get? (plainMembers members) key = (Members.get? members key).map plain := by
  rw [plainMembers_eq_map, Members.get?_map]

theorem field?_plain (j : Json) (key : Text) :
    (plain j).field? key = (j.field? key).map plain := by
  cases j with
  | object members => exact get?_plainMembers members key
  | _ => rfl

/-- Texts are found where they were. -/
theorem map_plain_eq_string_iff {found : Option Json} {t : Text} :
    found.map plain = some (.string t) ↔ found = some (.string t) := by
  rw [Option.map_eq_some_iff]
  constructor
  · rintro ⟨j, hj, hplain⟩
    cases j <;> cases hplain
    exact hj
  · exact fun h => ⟨_, h, rfl⟩

mutual

/-- The sign of a zero is not printed. -/
theorem render_plain (j : Json) : render (plain j) = render j := by
  cases j with
  | null => rfl
  | bool b => rfl
  | number x => simp only [plain, render, renderNumber, Double.isFinite_plain, Double.toText_plain]
  | string t => rfl
  | array items => rw [plain, render, render, renderItems_plain]
  | object members => rw [plain, render, render, renderMembers_plain]

theorem renderItems_plain (items : List Json) :
    renderItems (plainItems items) = renderItems items := by
  cases items with
  | nil => rfl
  | cons v items =>
    cases items with
    | nil => exact render_plain v
    | cons w rest =>
      have hrest := renderItems_plain (w :: rest)
      simp only [plainItems, renderItems] at hrest ⊢
      rw [render_plain v, hrest]

theorem renderMembers_plain (members : List (Text × Json)) :
    renderMembers (plainMembers members) = renderMembers members := by
  cases members with
  | nil => rfl
  | cons m members =>
    cases members with
    | nil => simp only [plainMembers, renderMembers, render_plain m.2]
    | cons n rest =>
      have hrest := renderMembers_plain (n :: rest)
      simp only [plainMembers, renderMembers] at hrest ⊢
      rw [render_plain m.2, hrest]

end

theorem WellFormed.legible_plain {j : Json} (hj : WellFormed j) : Legible (plain j) := by
  induction hj with
  | null => exact .null
  | bool b => exact .bool b
  | @number x h =>
    exact .number (readsBack_of_isFinite (x.isFinite_plain.trans h) x.plain_ne)
  | string t => exact .string t
  | array h ih =>
    rw [plain, plainItems_eq_map]
    refine .array fun j hj => ?_
    obtain ⟨v, hv, rfl⟩ := List.mem_map.1 hj
    exact ih v hv
  | object ordered h ih =>
    rw [plain, plainMembers_eq_map]
    refine .object (List.pairwise_map.2 ordered) fun m hm => ?_
    obtain ⟨n, hn, rfl⟩ := List.mem_map.1 hm
    exact ih n hn

/-- A well-formed value is read back without the signs of its zeros. -/
theorem parse?_render_of_wellFormed {j : Json} (hj : WellFormed j) :
    parse? (render j) = some (plain j) := by
  rw [← render_plain j, parse?_render hj.legible_plain]

end Json

end ConfigClient
