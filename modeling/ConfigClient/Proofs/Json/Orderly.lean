import ConfigClient.Proofs.Json.RoundTrip

/-!
# Order of what is read

However a text spells an object, with keys in any order and as often as it likes, the value that is
read has the members of every object once each, in the order of objects.

* `Orderly`: values with ordered members at any depth.
* `orderly_step`: no token disturbs the order of what the reader holds.
* `orderly_parse?`: whatever is read is orderly.
-/

namespace ConfigClient

namespace Json

/-- Whether the members of every object in a value have distinct keys in the order of an object. -/
inductive Orderly : Json → Prop
  | null : Orderly null
  | bool (b : Bool) : Orderly (bool b)
  | number (x : Double) : Orderly (number x)
  | string (t : Text) : Orderly (string t)
  | array {items : List Json} (h : ∀ j ∈ items, Orderly j) : Orderly (array items)
  | object {members : Members Json} (ordered : Members.Ordered members)
    (h : ∀ m ∈ members, Orderly m.2) : Orderly (object members)

theorem Orderly.members {members : Members Json} (h : Orderly (.object members)) :
    Members.Ordered members := by
  cases h with
  | object ordered h => exact ordered

theorem orderly_emptyArray : Orderly (array []) := .array nofun

theorem orderly_emptyObject : Orderly (object []) := .object List.Pairwise.nil nofun

theorem orderly_ofWord? {w : Text} {j : Json} (h : ofWord? w = some j) : Orderly j := by
  unfold ofWord? at h
  split_ifs at h
  · cases h
    exact .null
  · cases h
    exact .bool true
  · cases h
    exact .bool false
  · obtain ⟨n, -, rfl⟩ := Option.map_eq_some_iff.1 h
    exact .number _

/-! ## What the reader holds -/

/-- Whether the items and members in an open array or object are orderly so far. -/
def Frame.Orderly : Frame → Prop
  | .array items => Json.Orderly (.array items)
  | .object members _ => Json.Orderly (.object members)

namespace Reader

/-- The arrays and objects around the place where a reader stands. -/
def stack : Reader → List Frame
  | value stack => stack
  | firstItem stack => stack
  | afterItem _ stack => stack
  | firstKey stack => stack
  | key _ stack => stack
  | colon _ _ stack => stack
  | afterMember _ stack => stack
  | finished _ => []

/-- The value of which a reader holds a part or the whole. -/
def held : Reader → Json
  | afterItem items _ => .array items
  | key members _ => .object members
  | colon members _ _ => .object members
  | afterMember members _ => .object members
  | finished result => result
  | _ => .null

/-- Whether everything that a reader holds is orderly. -/
structure Orderly (r : Reader) : Prop where
  stack : ∀ f ∈ r.stack, f.Orderly
  held : r.held.Orderly

theorem orderly_supply {v : Json} (hv : v.Orderly) {stack : List Frame}
    (h : ∀ f ∈ stack, f.Orderly) : (supply v stack).Orderly := by
  cases stack with
  | nil => exact ⟨nofun, hv⟩
  | cons f stack =>
    obtain ⟨hf, hstack⟩ := List.forall_mem_cons.1 h
    cases f with
    | array items =>
      cases hf with
      | array hitems => exact ⟨hstack, .array (List.forall_mem_cons.2 ⟨hv, hitems⟩)⟩
    | object members k =>
      cases hf with
      | object ordered hmembers =>
        refine ⟨hstack, .object (ordered.insert k v) fun m hm => ?_⟩
        rcases Members.mem_insert hm with rfl | hm
        · exact hv
        · exact hmembers m hm

theorem orderly_begin {stack : List Frame} (hstack : ∀ f ∈ stack, f.Orderly) {t : Token}
    {r : Reader} (h : begin stack t = some r) : r.Orderly := by
  cases t with
  | arrayOpen =>
    cases h
    exact ⟨hstack, .null⟩
  | objectOpen =>
    cases h
    exact ⟨hstack, .null⟩
  | string t =>
    cases h
    exact orderly_supply (.string t) hstack
  | word w =>
    obtain ⟨v, hv, rfl⟩ := Option.map_eq_some_iff.1 h
    exact orderly_supply (orderly_ofWord? hv) hstack
  | _ => cases h

/-- No token disturbs the order of what a reader holds. -/
theorem orderly_step {r r' : Reader} {t : Token} (hr : r.Orderly) (h : r.step t = some r') :
    r'.Orderly := by
  obtain ⟨hstack, hheld⟩ := hr
  cases r with
  | value stack => exact orderly_begin hstack h
  | firstItem stack =>
    by_cases ht : t = .arrayClose
    · rw [ht] at h
      cases h
      exact orderly_supply orderly_emptyArray hstack
    · rw [awaitsValue_firstItem stack t ht] at h
      have hframe : (Frame.array []).Orderly := orderly_emptyArray
      exact orderly_begin (List.forall_mem_cons.2 ⟨hframe, hstack⟩) h
  | afterItem items stack =>
    cases t with
    | comma =>
      cases h
      exact ⟨List.forall_mem_cons.2 ⟨hheld, hstack⟩, .null⟩
    | arrayClose =>
      cases h
      cases hheld with
      | array hitems =>
        exact orderly_supply (.array fun j hj => hitems j (List.mem_reverse.1 hj)) hstack
    | _ => cases h
  | firstKey stack =>
    cases t with
    | objectClose =>
      cases h
      exact orderly_supply orderly_emptyObject hstack
    | string k =>
      cases h
      exact ⟨hstack, orderly_emptyObject⟩
    | _ => cases h
  | key members stack =>
    cases t with
    | string k =>
      cases h
      exact ⟨hstack, hheld⟩
    | _ => cases h
  | colon members k stack =>
    cases t with
    | colon =>
      cases h
      exact ⟨List.forall_mem_cons.2 ⟨hheld, hstack⟩, .null⟩
    | _ => cases h
  | afterMember members stack =>
    cases t with
    | comma =>
      cases h
      exact ⟨hstack, hheld⟩
    | objectClose =>
      cases h
      exact orderly_supply hheld hstack
    | _ => cases h
  | finished result => cases h

theorem orderly_foldlM {ts : List Token} {r r' : Reader} (hr : r.Orderly)
    (h : ts.foldlM step r = some r') : r'.Orderly := by
  induction ts generalizing r with
  | nil =>
    cases h
    exact hr
  | cons t ts ih =>
    rw [List.foldlM_cons] at h
    obtain ⟨next, hnext, h⟩ := Option.bind_eq_some_iff.1 h
    exact ih (orderly_step hr hnext) h

end Reader

/-- Whatever is read is orderly. -/
theorem orderly_parse? {t : Text} {j : Json} (h : parse? t = some j) : j.Orderly := by
  obtain ⟨ts, -, h⟩ := Option.bind_eq_some_iff.1 h
  obtain ⟨r, hr, hresult⟩ := Option.bind_eq_some_iff.1 h
  have start : (Reader.value []).Orderly := ⟨List.forall_mem_nil _, .null⟩
  have orderly : r.Orderly := Reader.orderly_foldlM start hr
  cases r with
  | finished result =>
    cases hresult
    exact orderly.held
  | _ => cases hresult

end Json

end ConfigClient
