import ConfigClient.Proofs.HttpError.Body

/-!
# Bodies as text and as values

The body of a response may be handed over as the text that arrived or as the value that it spells.
The error is the same: its message, status and exit code are equal, and its context is written
alike. The only thing that reading a text may lose is the sign of a zero, and no text shows it.

* `completed_plain`: completing a body goes along with dropping the signs of zeros.
* `detail_plainMembers`: no `error` entry says the sign of a zero.
* `jsonText?_context`: the text of the context of an error.
* `ofResponse?_written`: a body as text and as value.
-/

namespace ConfigClient

namespace HttpError

open Json

/-! ## Signs of zeros -/

theorem membersOf_plain (j : Json) : membersOf (plain j) = plainMembers (membersOf j) := by
  cases j <;> rfl

theorem isUsable_plain (j : Json) : isUsable (.ofJson (plain j)) = isUsable (.ofJson j) := by
  cases j <;> rfl

theorem entryOf_plain (r : ResponseRecord) (j : Json) :
    entryOf r (plain j) = plain (entryOf r j) := by
  unfold entryOf
  rw [field?_plain]
  cases j.field? "error" with
  | none => rfl
  | some entry =>
    simp only [Option.map_some, isUsable_plain]
    split_ifs <;> rfl

/-- Completing a body goes along with dropping the signs of zeros. -/
theorem completed_plain (r : ResponseRecord) (j : Json) :
    completed r (plain j) = plainMembers (completed r j) := by
  rw [completed, completed, membersOf_plain, entryOf_plain, plainMembers_eq_map,
    plainMembers_eq_map, Members.insert_map]

theorem detail_plain_of_isObject {entry : Json} (h : (Value.ofJson entry).isObject = true) :
    detail (.ofJson (plain entry)) = detail (.ofJson entry) := by
  have hplain : (Value.ofJson (plain entry)).isObject = true := by
    cases entry <;> exact h
  have hfield (t : Text) : (plain entry).field? "message" = some (.string t) ↔
      entry.field? "message" = some (.string t) := by
    rw [field?_plain, map_plain_eq_string_iff]
  by_cases hm : ∃ t, entry.field? "message" = some (.string t)
  · obtain ⟨t, ht⟩ := hm
    have hvalue {j : Json} (hj : j.field? "message" = some (.string t)) :
        (Value.ofJson j).field "message" = .string t := by
      rw [Value.field_ofJson, hj]
      rfl
    rw [detail_of_message (hvalue ht) h, detail_of_message (hvalue ((hfield t).2 ht)) hplain]
  · have hnone (t : Text) : entry.field? "message" ≠ some (.string t) := fun ht => hm ⟨t, ht⟩
    rw [detail_ofJson h hnone, detail_ofJson hplain fun t => (hfield t).not.2 (hnone t),
      render_plain]

/-- No `error` entry says the sign of a zero. -/
theorem detail_plainMembers {members : Members Json} (h : HasEntry (.object members)) :
    detail ((Members.get? (Value.ofJsonMembers (plainMembers members)) "error").getD .undefined) =
      detail ((Members.get? (Value.ofJsonMembers members) "error").getD .undefined) := by
  rw [Value.get?_ofJsonMembers, Value.get?_ofJsonMembers, get?_plainMembers]
  rcases h with ⟨t, h⟩ | ⟨items, h⟩ | ⟨own, h⟩
  · rw [show Members.get? members "error" = _ from h]
    rfl
  · rw [show Members.get? members "error" = _ from h]
    exact detail_plain_of_isObject rfl
  · rw [show Members.get? members "error" = _ from h]
    exact detail_plain_of_isObject rfl

/-! ## The context as JSON -/

/-- A response as JSON. -/
def recordJson (x : Double) (raw : Option Text) : Json :=
  .object (("statusCode", .number x) :: raw.elim [] fun t => [("content", .string t)])

theorem value_record (x : Double) (raw : Option Text) :
    (record x raw).value = .ofJson (recordJson x raw) := by
  cases raw <;> rfl

/-- The context of an error as JSON. -/
def contextJson (x : Double) (raw : Option Text) (members : Members Json) : Json :=
  .object [("body", .object members), ("response", recordJson x raw)]

/-- The text of the context of an error. -/
theorem jsonText?_context (x : Double) (raw : Option Text) (members : Members Json) :
    (context (record x raw) (Value.ofJsonMembers members)).jsonText? =
      .ok (some (contextJson x raw members).render) := by
  have hcontext : context (record x raw) (Value.ofJsonMembers members) =
      .ofJson (contextJson x raw members) := by
    rw [context, value_record]
    rfl
  rw [hcontext, Value.jsonText?, Value.json?_ofJson]
  rfl

theorem render_contextJson_plain (x : Double) (raw : Option Text) (members : Members Json) :
    (contextJson x raw (plainMembers members)).render = (contextJson x raw members).render := by
  have hbody : render (.object (plainMembers members)) = render (.object members) :=
    render_plain (.object members)
  simp only [contextJson, render, renderMembers] at hbody ⊢
  rw [hbody]

/-! ## Two ways to hand over a body -/

/-- The error for a response does not depend on whether its body is handed over as a JSON value or
as the text of that value. Either both times there is none, or both errors have the same message,
status and exit code and contexts with the same text. -/
theorem ofResponse?_written {j : Json} (hj : j.WellFormed) (ht : ∀ t, j ≠ .string t) (x : Double)
    (raw : Option Text) (url : Text) :
    let written := ofResponse? (record x raw) (.string j.render) url
    let given := ofResponse? (record x raw) (.ofJson j) url
    (written = .ok none ∧ given = .ok none) ∨
      ∃ e e', written = .ok (some e) ∧ given = .ok (some e') ∧ e.message = e'.message ∧
        e.status = e'.status ∧ e.exit = e'.exit ∧
        ∃ t, e.context.jsonText? = .ok (some t) ∧ e'.context.jsonText? = .ok (some t) := by
  simp only
  by_cases hs : (Value.number x).IsSuccessStatus
  · exact .inl ⟨ofResponse?_of_success (r := record x raw) hs _ _,
      ofResponse?_of_success (r := record x raw) hs _ _⟩
  · -- Both bodies are completed from one value, and differ at most in the signs of zeros.
    have hentry := hasEntry_completed (record x raw) j
    have hgiven := body_ofJson (record x raw) ht
    have hwritten : body (record x raw) (.string j.render) =
        Value.ofJsonMembers (plainMembers (completed (record x raw) j)) := by
      rw [body_of_json _ (parse?_render_of_wellFormed hj), complete_ofJson, completed_plain]
    obtain ⟨said, hsaid⟩ := detail_of_hasEntry hentry
    have hsaid' := (detail_plainMembers hentry).trans hsaid
    rw [← hgiven] at hsaid
    rw [← hwritten] at hsaid'
    refine .inr ⟨_, _, ofResponse?_of_detail hs hsaid' url, ofResponse?_of_detail hs hsaid url, rfl,
      rfl, rfl, (contextJson x raw (completed (record x raw) j)).render, ?_, ?_⟩
    · rw [← render_contextJson_plain, ← jsonText?_context, ← hwritten]
      rfl
    · rw [← jsonText?_context, ← hgiven]
      rfl

/-- A body whose `error` entry has no message that is a text, but a zero with a sign. -/
def signedError : Json :=
  .object [("error", .object [("code", .number (.ofUnits true 0)), ("message", .null)])]

theorem ofResponse?_written_signed :
    signedError.WellFormed ∧ (∀ t, signedError ≠ .string t) ∧
      ∃ e e', ofResponse? (record (.ofNat 404) none) (.string signedError.render) [] =
          .ok (some e) ∧
        ofResponse? (record (.ofNat 404) none) (.ofJson signedError) [] = .ok (some e') ∧
        e.message = e'.message := by
  have hj : signedError.WellFormed := by
    refine .object (by decide) (List.forall_mem_singleton.2 (.object (by decide) ?_))
    simp only [List.forall_mem_cons]
    exact ⟨.number rfl, .null, nofun⟩
  have ht (t : Text) : signedError ≠ .string t := nofun
  have hs : ¬(Value.number (.ofNat 404)).IsSuccessStatus :=
    (Value.isSuccessStatus_ofNat 404).not.2 (by omega)
  obtain ⟨-, hnone⟩ | ⟨e, e', he, he', hmessage, -⟩ :=
    ofResponse?_written hj ht (.ofNat 404) none []
  · obtain ⟨said, hsaid⟩ := detail_of_hasEntry (hasEntry_completed (record (.ofNat 404) none)
      signedError)
    rw [← body_ofJson _ ht] at hsaid
    cases hnone.symm.trans (ofResponse?_of_detail hs hsaid [])
  · exact ⟨hj, ht, e, e', he, he', hmessage⟩

end HttpError

end ConfigClient
