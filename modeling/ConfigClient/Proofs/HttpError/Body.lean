import ConfigClient.Proofs.ErrorBody
import ConfigClient.Proofs.Json.Orderly

/-!
# What the error for a response keeps of the body

The body in the context of an error is the body of the response with an `error` entry that can be
relied on. Nothing else changes: every other member keeps its value and its place, whatever its key
is, and an entry that is usable stays as it is.

* `Holds`: the JSON value that a body holds.
* `Normalises`: what becomes of that value, one constructor for each state of its `error` entry.
* `exists_body`: the body in the context of an error.
* `ofResponse?_normalises`: the error for a number other than 2xx as its status, with its response.
* `ofResponse?_of_fraction`: a number above 299 that still counts as 2xx.
-/

namespace ConfigClient

namespace HttpError

open Json

/-- A response whose status is a number, with its content if one was read. -/
def record (x : Double) (content : Option Text) : ResponseRecord :=
  ⟨.number x, (content.map .string).getD .undefined⟩

/-- The JSON value that a body holds: a text is read, and any other value stands for itself. A text
that is no JSON holds none. -/
inductive Holds : Value → Option Json → Prop
  | text (t : Text) : Holds (.string t) (parse? t)
  | value {j : Json} (hj : j.Orderly) (ht : ∀ t, j ≠ .string t) : Holds (.ofJson j) (some j)

/-- A member with an `error` entry. -/
def errorMember (entry : Json) : Text × Json := ("error", entry)

/-- An `error` entry that says only what happened. -/
def remark (t : Text) : Json := .object [("message", .string t)]

/-- What the normalised body is, given the value that the body holds. -/
inductive Normalises : Option Json → Members Json → Prop
  /-- An object with a usable entry stays as it is. -/
  | kept {members : Members Json} (h : HasEntry (.object members)) :
    Normalises (some (.object members)) members
  /-- An entry that is not usable is replaced where it stands. -/
  | repaired {before after : Members Json} {old : Json} (t : Text)
    (h : ¬HasEntry (.object (before ++ errorMember old :: after))) :
    Normalises (some (.object (before ++ errorMember old :: after)))
      (before ++ errorMember (remark t) :: after)
  /-- An entry that is missing is added behind all members. -/
  | added {members : Members Json} (t : Text) (h : Members.get? members "error" = none) :
    Normalises (some (.object members)) (members ++ [errorMember (remark t)])
  /-- Where there is no object the entry is all there is. -/
  | alone {parsed : Option Json} (t : Text) (h : ∀ members, parsed ≠ some (.object members)) :
    Normalises parsed [errorMember (remark t)]

/-- What becomes of an object. -/
theorem Normalises.of_object {own members : Members Json}
    (h : Normalises (some (.object own)) members) :
    (HasEntry (.object own) ∧ members = own) ∨
      (∃ before old after t, own = before ++ errorMember old :: after ∧
        members = before ++ errorMember (remark t) :: after) ∨
      ∃ t, Members.get? own "error" = none ∧ members = own ++ [errorMember (remark t)] := by
  cases h with
  | kept h => exact .inl ⟨h, rfl⟩
  | repaired t h => exact .inr (.inl ⟨_, _, _, t, rfl, rfl⟩)
  | added t h => exact .inr (.inr ⟨t, h, rfl⟩)
  | alone t h => exact absurd rfl (h own)

/-! ## The normalised body as JSON -/

/-- The members of a value that is an object. -/
def membersOf : Json → Members Json
  | .object members => members
  | _ => []

/-- What is said of a body without a usable entry. -/
def fallbackText (r : ResponseRecord) : Text :=
  if r.isNotFound then "Not Found" else "Unknown Error"

/-- The `error` entry of a value, or what stands for it. -/
def entryOf (r : ResponseRecord) (j : Json) : Json :=
  match j.field? "error" with
  | some entry => if isUsable (.ofJson entry) then entry else remark (fallbackText r)
  | none => remark (fallbackText r)

/-- The members of a body with an entry that says what went wrong. -/
def completed (r : ResponseRecord) (j : Json) : Members Json :=
  Members.insert (membersOf j) "error" (entryOf r j)

theorem members_ofJson (j : Json) :
    (Value.ofJson j).members = Value.ofJsonMembers (membersOf j) := by
  cases j with
  | object members => exact Value.members_object_ofJsonMembers members
  | _ => rfl

theorem entryOf_eq (r : ResponseRecord) (j : Json) :
    (if isUsable ((Value.ofJson j).field "error") then (Value.ofJson j).field "error"
      else fallback r) = .ofJson (entryOf r j) := by
  have hfallback : fallback r = .ofJson (remark (fallbackText r)) := rfl
  rw [Value.field_ofJson, entryOf]
  cases j.field? "error" with
  | none => exact hfallback
  | some entry =>
    simp only [Option.map_some, Option.getD_some]
    split_ifs
    · rfl
    · exact hfallback

/-- Completing a value from JSON gives a value from JSON. -/
theorem complete_ofJson (r : ResponseRecord) (j : Json) :
    complete r (.ofJson j) = Value.ofJsonMembers (completed r j) := by
  unfold complete completed
  simp only
  rw [entryOf_eq, members_ofJson, Value.ofJsonMembers_eq_map, Value.ofJsonMembers_eq_map,
    Members.insert_map]

theorem hasEntry_remark {members : Members Json} {t : Text}
    (h : Members.get? members "error" = some (remark t)) : HasEntry (.object members) :=
  (isUsable_iff_hasEntry (j := .object _) h).1 rfl

/-- The `error` entry of a completed value is usable. -/
theorem hasEntry_completed (r : ResponseRecord) (j : Json) :
    HasEntry (.object (completed r j)) := by
  have hget : Members.get? (completed r j) "error" = some (entryOf r j) := by
    rw [completed, Members.get?_insert, if_pos rfl]
  unfold entryOf at hget
  split at hget
  · split_ifs at hget with hu
    · exact (isUsable_iff_hasEntry (j := .object _) hget).1 hu
    · exact hasEntry_remark hget
  · exact hasEntry_remark hget

theorem arrayIndex?_error : arrayIndex? "error" = none := by decide

theorem normalises_completed (r : ResponseRecord) {j : Json} (hj : j.Orderly) :
    Normalises (some j) (completed r j) := by
  cases j with
  | object members =>
    unfold completed entryOf
    rw [membersOf, field?]
    cases he : Members.get? members "error" with
    | none =>
      simp only
      rw [Members.insert_new he arrayIndex?_error]
      exact .added _ he
    | some entry =>
      obtain ⟨before, after, rfl⟩ := List.append_of_mem (Members.mem_of_get? he)
      simp only
      rw [Members.insert_replace hj.members.nodup]
      split_ifs with hu
      · exact .kept ((isUsable_iff_hasEntry (j := .object _) he).1 hu)
      · exact .repaired _ fun h => hu ((isUsable_iff_hasEntry (j := .object _) he).2 h)
  | _ =>
    refine .alone _ fun own h => ?_
    cases h

/-! ## The body of an error -/

theorem body_ofJson (r : ResponseRecord) {j : Json} (ht : ∀ t, j ≠ .string t) :
    body r (.ofJson j) = Value.ofJsonMembers (completed r j) := by
  rw [← complete_ofJson, body]
  intro u rest h
  cases j with
  | string t => exact ht t rfl
  | _ => cases h

/-- The body in the context of an error is a JSON value with an `error` entry, made of the value
that the body of the response holds. -/
theorem exists_body (r : ResponseRecord) {content : Value} {parsed : Option Json}
    (h : Holds content parsed) :
    ∃ members, body r content = Value.ofJsonMembers members ∧ HasEntry (.object members) ∧
      Normalises parsed members := by
  cases h with
  | value hj ht =>
    exact ⟨_, body_ofJson r ht, hasEntry_completed r _, normalises_completed r hj⟩
  | text t =>
    cases hj : parse? t with
    | some j =>
      exact ⟨_, (body_of_json r hj).trans (complete_ofJson r j), hasEntry_completed r j,
        normalises_completed r (orderly_parse? hj)⟩
    | none =>
      cases t with
      | nil => exact ⟨_, rfl, hasEntry_remark rfl, .alone (fallbackText r) nofun⟩
      | cons u rest =>
        rw [body, hj]
        exact ⟨_, rfl, hasEntry_remark rfl, .alone _ nofun⟩

/-! ## The error -/

/-- An `error` entry from JSON says something. -/
theorem detail_of_hasEntry {members : Members Json} (h : HasEntry (.object members)) :
    ∃ said, detail ((Members.get? (Value.ofJsonMembers members) "error").getD .undefined) =
      .ok said := by
  have hget : ∃ entry, Members.get? members "error" = some entry := by
    rcases h with ⟨t, h⟩ | ⟨items, h⟩ | ⟨own, h⟩ <;> exact ⟨_, h⟩
  obtain ⟨entry, hentry⟩ := hget
  rw [Value.get?_ofJsonMembers, hentry]
  exact detail_of_json? (Value.json?_ofJson entry)

/-- The context of an error as its fields: the body, which came from JSON, and the response. -/
theorem fields_context (x : Double) (raw : Option Text) (members : Members Json) :
    let context := context (record x raw) (Value.ofJsonMembers members)
    context.field "response" = (record x raw).value ∧
      context.field "body" = .ofJson (.object members) := by
  refine ⟨?_, Value.takenFrom_ofJson (.object members) _⟩
  cases raw <;> rfl

theorem response?_of_context {e : LibraryError} {x : Double} {raw : Option Text}
    {members : Members Value} (h : e.context = context (record x raw) members) :
    e.response? = some (record x raw) := by
  unfold LibraryError.response?
  rw [h]
  cases raw <;> rfl

/-- The error for a response whose status is a number other than 2xx. It has that status and holds
the response unchanged, so that the response can be read back from it. The body that it holds has an
`error` entry that is a text, an array or an object, and is otherwise the body of the response. -/
theorem ofResponse?_normalises {x : Double} (hx : x ≠ .nan)
    (hs : ¬(Value.number x).IsSuccessStatus) {content : Value} {parsed : Option Json}
    (hc : Holds content parsed) (raw : Option Text) (url : Text) :
    let r := record x raw
    ∃ e members, ofResponse? r content url = .ok (some e) ∧ e.status = .number x ∧
      e.context.field "response" = r.value ∧ e.response? = some r ∧
      e.context.field "body" = .ofJson (.object members) ∧ HasEntry (.object members) ∧
      Normalises parsed members := by
  simp only
  obtain ⟨members, hbody, hentry, hnormal⟩ := exists_body (record x raw) hc
  obtain ⟨said, hsaid⟩ := detail_of_hasEntry hentry
  rw [← hbody] at hsaid
  have hfields := fields_context x raw members
  rw [← hbody] at hfields
  exact ⟨_, members, ofResponse?_of_detail hs hsaid url, LibraryError.settle_number hx _,
    hfields.1, response?_of_context rfl, hfields.2, hentry, hnormal⟩

/-- An entry of the wrong kind is replaced where it stands, between members of which one has an
index as its key, and the response can be read back. -/
theorem ofResponse?_normalises_null :
    let t : Text := "\x7b\"error\":null,\"__proto__\":[],\"7\":true\x7d"
    let x : Double := .ofNat 404
    x ≠ .nan ∧ ¬(Value.number x).IsSuccessStatus ∧
      ∃ e said, ofResponse? (record x (some t)) (.string t) [] = .ok (some e) ∧
        e.response? = some (record x (some t)) ∧
        e.context.field "body" = .ofJson (.object [("7", .bool true), ("error", remark said),
          ("__proto__", .array [])]) := by
  intro t x
  have hx : x ≠ .nan := Double.ofNat_ne_nan 404
  have hs : ¬(Value.number x).IsSuccessStatus :=
    (Value.isSuccessStatus_ofNat 404).not.2 (by omega)
  obtain ⟨e, members, he, -, -, hresponse, hbody, -, hnormal⟩ :=
    ofResponse?_normalises hx hs (.text t) (some t) []
  have hparsed : parse? t = some (.object [("7", .bool true), ("error", .null),
    ("__proto__", .array [])]) := rfl
  rw [hparsed] at hnormal
  refine ⟨hx, hs, e, ?_⟩
  rcases hnormal.of_object with ⟨h, -⟩ | ⟨before, old, after, said, hmembers, rfl⟩ | ⟨said, h, -⟩
  · rcases h with ⟨t, h⟩ | ⟨items, h⟩ | ⟨own, h⟩ <;> cases h
  · refine ⟨said, he, hresponse, hbody.trans ?_⟩
    rcases before with _ | ⟨first, _ | ⟨second, _ | ⟨third, before⟩⟩⟩
    · cases hmembers
    · cases hmembers
      rfl
    · cases hmembers
    · have hlength := congrArg List.length hmembers
      simp only [List.cons_append, List.length_cons, List.length_append, List.length_nil] at hlength
      omega
  · cases h

/-- A number between 299 and 300 is taken for a status in 2xx, which makes no error. -/
theorem ofResponse?_of_fraction :
    let x : Double := .nearest false 599 2
    x.toText = "299.5" ∧ x ≠ .nan ∧ Double.lt (.ofNat 299) x = true ∧
      ofResponse? (record x none) (.string "gone") [] = .ok none := by
  intro x
  have hs : (Value.number x).IsSuccessStatus :=
    ⟨congrArg Except.ok (by decide +kernel), congrArg Except.ok (by decide +kernel)⟩
  exact ⟨by decide +kernel, by decide +kernel, by decide +kernel,
    ofResponse?_of_success (r := record x none) hs _ _⟩

end HttpError

end ConfigClient
