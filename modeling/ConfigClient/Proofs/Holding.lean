import ConfigClient.Proofs.Members
import ConfigClient.Value
import Mathlib.Tactic.SplitIfs

/-!
# Values outside of their containers

What is taken out of a container refers to the container itself, and no longer to a place around it.
So it stays what it is wherever it is put next, and so does every JSON value, which holds itself
nowhere.

* `Value.relink_relink`: replacing twice.
* `Value.takenFrom_takenFrom`: what has been taken out of a container is not changed by another one.
* `Value.takenFrom_ofJson`, `Value.members_ofJson`, `Value.items_ofJson`: JSON values.
* `LibraryError.held_held`, `LibraryError.held_ofJson`: the same for what an error holds.
-/

namespace ConfigClient

namespace Value

/-! ## Replacing twice -/

section

variable {f g g' : Nat → Nat → Value} {m : Nat}

mutual

/-- Replacing what another replacement gives, in a value that stands `m` containers deeper for the
second one, is one replacement. -/
theorem relink_relink (h : ∀ depth level, relink f (m + depth) (g depth level) = g' depth level)
    (depth : Nat) : (v : Value) → relink f (m + depth) (relink g depth v) = relink g' depth v
  | .undefined => rfl
  | .null => rfl
  | .bool b => rfl
  | .number x => rfl
  | .bigint n => rfl
  | .string t => rfl
  | .array items => by
    rw [relink, relink, relink, Nat.add_assoc, relinkItems_relinkItems h (depth + 1) items]
  | .object members => by
    rw [relink, relink, relink, Nat.add_assoc, relinkMembers_relinkMembers h (depth + 1) members]
  | .operation name parameters reply => rfl
  | .holder level => by
    rw [relink, relink, h]
  | .fault e => by
    rw [relink, relink, relink, Nat.add_assoc, relinkFault_relinkFault h (depth + 1) e]

theorem relinkItems_relinkItems
    (h : ∀ depth level, relink f (m + depth) (g depth level) = g' depth level) (depth : Nat) :
    (items : List Value) →
      relinkItems f (m + depth) (relinkItems g depth items) = relinkItems g' depth items
  | [] => rfl
  | v :: rest => by
    rw [relinkItems, relinkItems, relinkItems, relink_relink h depth v,
      relinkItems_relinkItems h depth rest]

theorem relinkMembers_relinkMembers
    (h : ∀ depth level, relink f (m + depth) (g depth level) = g' depth level) (depth : Nat) :
    (members : List (Text × Value)) →
      relinkMembers f (m + depth) (relinkMembers g depth members) = relinkMembers g' depth members
  | [] => rfl
  | (k, v) :: rest => by
    rw [relinkMembers, relinkMembers, relinkMembers, relink_relink h depth v,
      relinkMembers_relinkMembers h depth rest]

theorem relinkFault_relinkFault
    (h : ∀ depth level, relink f (m + depth) (g depth level) = g' depth level) (depth : Nat) :
    (e : Fault) → relinkFault f (m + depth) (relinkFault g depth e) = relinkFault g' depth e
  | .plain _ _ _ => rfl
  | .platform _ => rfl
  | .library ⟨kind, message, children, context, exit, cause, status, stack⟩ => by
    rw [relinkFault, relinkFault, relinkFault, relinkKind_relinkKind h depth kind,
      relink_relink h depth message, relink_relink h depth children,
      relink_relink h depth context, relink_relink h depth exit, relink_relink h depth cause,
      relink_relink h depth status]

theorem relinkKind_relinkKind
    (h : ∀ depth level, relink f (m + depth) (g depth level) = g' depth level) (depth : Nat) :
    (kind : LibraryError.Kind) →
      relinkKind f (m + depth) (relinkKind g depth kind) = relinkKind g' depth kind
  | .general => rfl
  | .request code => by
    rw [relinkKind, relinkKind, relinkKind, relink_relink h depth code]

end

end

/-! ## Taking out -/

/-- A closed value stays what it is in any container. -/
theorem relink_closed {f : Nat → Nat → Value}
    (h : ∀ {depth level : Nat}, level < depth → f depth level = holder level) (m : Nat)
    (v : Value) : relink f m v.closed = v.closed := by
  refine relink_relink (fun depth level => ?_) 0 v
  split_ifs with hlevel
  · exact h (Nat.lt_add_left m hlevel)
  · rfl

theorem takenFrom_takenFrom (v container other : Value) :
    (v.takenFrom container).takenFrom other = v.takenFrom container := by
  unfold takenFrom
  have hclosed (m : Nat) :=
    relink_closed (f := fun depth level => if level = depth then other.closed else holder level)
      (fun hlevel => if_neg (Nat.ne_of_lt hlevel)) m container
  have hreplaced (depth level : Nat) :
      relink (fun depth level => if level = depth then other.closed else holder level) (0 + depth)
        (if level = depth then container.closed else holder level) =
      if level = depth then container.closed else holder level := by
    split_ifs with hlevel
    · exact hclosed _
    · rw [relink, Nat.zero_add, if_neg hlevel]
  exact relink_relink hreplaced 0 v

/-! ## JSON values -/

mutual

theorem relink_ofJson (f : Nat → Nat → Value) (depth : Nat) :
    (j : Json) → relink f depth (ofJson j) = ofJson j
  | .null => rfl
  | .bool b => rfl
  | .number x => rfl
  | .string t => rfl
  | .array items => by
    rw [ofJson, relink, relinkItems_ofJsonItems f (depth + 1) items]
  | .object members => by
    rw [ofJson, relink, relinkMembers_ofJsonMembers f (depth + 1) members]

theorem relinkItems_ofJsonItems (f : Nat → Nat → Value) (depth : Nat) :
    (items : List Json) → relinkItems f depth (ofJsonItems items) = ofJsonItems items
  | [] => rfl
  | v :: rest => by
    rw [ofJsonItems, relinkItems, relink_ofJson f depth v, relinkItems_ofJsonItems f depth rest]

theorem relinkMembers_ofJsonMembers (f : Nat → Nat → Value) (depth : Nat) :
    (members : List (Text × Json)) →
      relinkMembers f depth (ofJsonMembers members) = ofJsonMembers members
  | [] => rfl
  | (k, v) :: rest => by
    rw [ofJsonMembers, relinkMembers, relink_ofJson f depth v,
      relinkMembers_ofJsonMembers f depth rest]

end

theorem takenFrom_ofJson (j : Json) (container : Value) :
    (ofJson j).takenFrom container = ofJson j := relink_ofJson _ 0 j

theorem ofJsonMembers_eq_map (members : List (Text × Json)) :
    ofJsonMembers members = members.map fun m => (m.1, ofJson m.2) := by
  induction members with
  | nil => rfl
  | cons m rest ih => rw [ofJsonMembers, ih, List.map_cons]

theorem members_object_ofJsonMembers (members : List (Text × Json)) :
    (object (ofJsonMembers members)).members = ofJsonMembers members := by
  rw [Value.members, ofJsonMembers_eq_map, List.map_map]
  exact List.map_congr_left fun m _ => by rw [Function.comp_apply, takenFrom_ofJson]

theorem get?_ofJsonMembers (members : List (Text × Json)) (key : Text) :
    Members.get? (ofJsonMembers members) key = (Members.get? members key).map ofJson := by
  rw [ofJsonMembers_eq_map, Members.get?_map]

theorem field_ofJson (j : Json) (key : Text) :
    (ofJson j).field key = ((j.field? key).map ofJson).getD undefined := by
  cases j with
  | object members =>
    show ((object (ofJsonMembers members)).member key) = _
    rw [member, members_object_ofJsonMembers, get?_ofJsonMembers]
    rfl
  | _ => rfl

end Value

namespace LibraryError

theorem held_held (e e' : LibraryError) (v : Value) : e'.held (e.held v) = e.held v :=
  Value.takenFrom_takenFrom v _ _

theorem held_ofJson (e : LibraryError) (j : Json) : e.held (.ofJson j) = .ofJson j :=
  Value.takenFrom_ofJson j _

theorem held_number (e : LibraryError) (x : Double) : e.held (.number x) = .number x := rfl

end LibraryError

end ConfigClient
