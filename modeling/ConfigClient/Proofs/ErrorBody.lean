import ConfigClient.Proofs.HttpError
import ConfigClient.Proofs.ServiceError

/-!
# What the error for a response says

The HTTP client and the reader of service errors take the same body apart on their own. Where the
second finds a message the error for the response says just that; where it finds none, what the
error says depends on the body alone.

* `Remark`: what is said of a body without a message.
* `says_of_message`, `says_of_remark`: what the `error` entry of the normalised body says.
* `message_agrees`: the message of the error for a response.
-/

namespace ConfigClient

namespace HttpError

open Json

/-- Whether a value has a text, an array or an object under `error`. -/
def HasEntry (j : Json) : Prop :=
  (∃ t, j.field? "error" = some (.string t)) ∨ (∃ items, j.field? "error" = some (.array items)) ∨
    ∃ members, j.field? "error" = some (.object members)

/-- What the error for a response with a status `x` says of a body without a message. -/
inductive Remark (x : Double) (b : Text) : Text → Prop
  /-- The `error` entry is a text. -/
  | text {j : Json} {t : Text} (hj : parse? b = some j) (he : j.field? "error" = some (.string t)) :
    Remark x b t
  | list {j : Json} {items : List Json} (hj : parse? b = some j)
    (he : j.field? "error" = some (.array items)) : Remark x b (Json.array items).render
  | entries {j : Json} {members : Members Json} (hj : parse? b = some j)
    (he : j.field? "error" = some (.object members))
    (hm : ∀ t, Members.get? members "message" ≠ some (.string t)) :
    Remark x b (Json.object members).render
  | nothing (h : b = [] ∨ ∃ j, parse? b = some j ∧ ¬HasEntry j) :
    Remark x b (if x = .ofNat 404 then "Not Found" else "Unknown Error")
  | notJson (hb : b ≠ []) (hj : parse? b = none) :
    Remark x b (if x = .ofNat 404 then "Not Found" else b)

/-! ## Entries of the normalised body -/

theorem ne_nil_of_parse? {b : Text} {j : Json} (hj : parse? b = some j) : b ≠ [] := by
  rintro rfl
  cases hj

/-- The body of a text that is JSON is made from the value that it spells. -/
theorem body_of_json (r : ResponseRecord) {b : Text} {j : Json} (hj : parse? b = some j) :
    body r (.string b) = complete r (.ofJson j) := by
  cases b with
  | nil => exact absurd rfl (ne_nil_of_parse? hj)
  | cons u rest => rw [body, hj]

/-- A usable entry stays. -/
theorem get?_body_of_usable (r : ResponseRecord) {b : Text} {j entry : Json}
    (hj : parse? b = some j) (he : j.field? "error" = some entry)
    (hu : isUsable (.ofJson entry) = true) :
    Members.get? (body r (.string b)) "error" = some (.ofJson entry) := by
  rw [body_of_json r hj, get?_complete, Value.field_ofJson, he, Option.map_some,
    Option.getD_some, if_pos hu]

/-- An entry is usable just if it is a text, an array or an object. -/
theorem isUsable_iff_hasEntry {j entry : Json} (he : j.field? "error" = some entry) :
    isUsable (.ofJson entry) = true ↔ HasEntry j := by
  constructor
  · intro hu
    cases entry with
    | string t => exact .inl ⟨t, he⟩
    | array items => exact .inr (.inl ⟨items, he⟩)
    | object members => exact .inr (.inr ⟨members, he⟩)
    | _ => cases hu
  · rintro (⟨t, h⟩ | ⟨items, h⟩ | ⟨members, h⟩)
    · rw [Option.some.inj (he.symm.trans h)]
      rfl
    · rw [Option.some.inj (he.symm.trans h)]
      rfl
    · rw [Option.some.inj (he.symm.trans h)]
      rfl

theorem get?_body_of_nothing (r : ResponseRecord) {b : Text}
    (h : b = [] ∨ ∃ j, parse? b = some j ∧ ¬HasEntry j) :
    Members.get? (body r (.string b)) "error" = some (fallback r) := by
  rcases h with rfl | ⟨j, hj, hentry⟩
  · rw [body, get?_complete]
    · rfl
    · rintro u rest ⟨⟩
  · rw [body_of_json r hj, get?_complete, Value.field_ofJson]
    cases he : j.field? "error" with
    | none => rfl
    | some entry =>
      rw [Option.map_some, Option.getD_some, if_neg ((isUsable_iff_hasEntry he).not.2 hentry)]

theorem get?_body_of_not_json (r : ResponseRecord) {b : Text} (hb : b ≠ [])
    (hj : parse? b = none) :
    Members.get? (body r (.string b)) "error" =
      some (messageEntry (if r.isNotFound then "Not Found" else b)) := by
  cases b with
  | nil => exact absurd rfl hb
  | cons u rest =>
    rw [body, hj]
    rfl

/-! ## What they say -/

/-- Whether the `error` entry of the normalised body says something. -/
def Says (r : ResponseRecord) (b d : Text) : Prop :=
  detail ((Members.get? (body r (.string b)) "error").getD .undefined) = .ok d

theorem says_of_get? {r : ResponseRecord} {b d : Text} {entry : Value}
    (he : Members.get? (body r (.string b)) "error" = some entry) (hd : detail entry = .ok d) :
    Says r b d := by
  rw [Says, he]
  exact hd

theorem detail_messageEntry (t : Text) : detail (messageEntry t) = .ok t := rfl

theorem detail_of_message {entry : Value} {m : Text} (h : entry.field "message" = .string m)
    (hobject : entry.isObject = true) : detail entry = .ok m := by
  unfold detail
  rw [h]
  split
  · cases hobject
  · rename_i heq
    cases heq
    rfl
  · rename_i hother
    exact absurd rfl (hother m)

theorem detail_ofJson {entry : Json} (htext : (Value.ofJson entry).isObject = true)
    (hmessage : ∀ t, entry.field? "message" ≠ some (.string t)) :
    detail (.ofJson entry) = .ok entry.render := by
  unfold detail
  split
  · rename_i heq
    rw [heq] at htext
    cases htext
  · rename_i hfield _
    rw [Value.field_ofJson] at hfield
    cases hm : entry.field? "message" with
    | none =>
      rw [hm] at hfield
      cases hfield
    | some m =>
      rw [hm] at hfield
      cases m with
      | string t => exact absurd hm (hmessage t)
      | _ => cases hfield
  · rw [Value.jsonText?, Value.json?_ofJson]
    rfl

/-- A message that the reader of service errors finds is what is said. -/
theorem says_of_message (r : ResponseRecord) {b m : Text}
    (h : (ServiceError.parse b).message = some m) : Says r b m := by
  obtain ⟨j, members, hj, he, hm⟩ := ServiceError.message_parse_eq_some_iff.1 h
  have hfield : (Value.ofJson (.object members)).field "message" = .string m := by
    rw [Value.field_ofJson, field?, hm]
    rfl
  exact says_of_get? (get?_body_of_usable r hj he rfl) (detail_of_message hfield rfl)

theorem isNotFound_number (x : Double) (content : Value) :
    ResponseRecord.isNotFound ⟨.number x, content⟩ = true ↔ x = .ofNat 404 := beq_iff_eq

theorem says_of_remark {x : Double} {b d : Text} (h : Remark x b d) (content : Value) :
    Says ⟨.number x, content⟩ b d := by
  cases h with
  | text hj he => exact says_of_get? (get?_body_of_usable _ hj he rfl) rfl
  | list hj he => exact says_of_get? (get?_body_of_usable _ hj he rfl) (detail_ofJson rfl nofun)
  | entries hj he hm =>
    exact says_of_get? (get?_body_of_usable _ hj he rfl) (detail_ofJson rfl hm)
  | nothing h =>
    refine says_of_get? (get?_body_of_nothing _ h) ((detail_messageEntry _).trans ?_)
    simp only [isNotFound_number]
  | notJson hb hj =>
    refine says_of_get? (get?_body_of_not_json _ hb hj) ((detail_messageEntry _).trans ?_)
    simp only [isNotFound_number]

/-- Something is said of every body without a message. -/
theorem exists_remark (x : Double) {b : Text} (h : (ServiceError.parse b).message = none) :
    ∃ d, Remark x b d := by
  cases hj : parse? b with
  | none =>
    by_cases hb : b = []
    · exact ⟨_, .nothing (.inl hb)⟩
    · exact ⟨_, .notJson hb hj⟩
  | some j =>
    by_cases hentry : HasEntry j
    · rcases hentry with ⟨t, he⟩ | ⟨items, he⟩ | ⟨members, he⟩
      · exact ⟨_, .text hj he⟩
      · exact ⟨_, .list hj he⟩
      · refine ⟨_, .entries hj he fun t ht => ?_⟩
        rw [ServiceError.message_parse_eq_some_iff.2 ⟨j, members, hj, he, ht⟩] at h
        cases h
    · exact ⟨_, .nothing (.inr ⟨j, hj, hentry⟩)⟩

/-! ## The message -/

/-- The error for a response outside of 2xx says what its `error` entry says. -/
theorem ofResponse?_of_says {x : Double} {b d : Text}
    (hx : ¬(Value.number x).IsSuccessStatus) (hd : Says ⟨.number x, .string b⟩ b d) :
    ∃ e, ofResponse? ⟨.number x, .string b⟩ (.string b) [] = .ok (some e) ∧
      e.message = .string ("HTTP Error: " ++ x.toText ++ ", " ++ d) := by
  exact ⟨_, ofResponse?_of_detail hx hd [], rfl⟩

/-- The message of the error for a response outside of 2xx: the message that the reader of service
errors finds in the body. If it finds none, there is one remark to make on the body, and this is
the message. -/
theorem message_agrees {x : Double} (hx : ¬(Value.number x).IsSuccessStatus) (b : Text) :
    ∃ e, ofResponse? ⟨.number x, .string b⟩ (.string b) [] = .ok (some e) ∧
      (∀ m, (ServiceError.parse b).message = some m →
        e.message = .string ("HTTP Error: " ++ x.toText ++ ", " ++ m)) ∧
      ((ServiceError.parse b).message = none →
        ∃ d, e.message = .string ("HTTP Error: " ++ x.toText ++ ", " ++ d) ∧
          ∀ d', Remark x b d' ↔ d' = d) := by
  cases hm : (ServiceError.parse b).message with
  | some m =>
    obtain ⟨e, he, hmessage⟩ := ofResponse?_of_says hx (says_of_message _ hm)
    refine ⟨e, he, ?_, nofun⟩
    rintro _ ⟨⟩
    exact hmessage
  | none =>
    obtain ⟨d, hd⟩ := exists_remark x hm
    obtain ⟨e, he, hmessage⟩ := ofResponse?_of_says hx (says_of_remark hd (.string b))
    refine ⟨e, he, nofun, fun _ => ⟨d, hmessage, fun d' => ⟨fun hd' => ?_, ?_⟩⟩⟩
    · exact Except.ok.inj ((says_of_remark hd' (.string b)).symm.trans
        (says_of_remark hd (.string b)))
    · rintro rfl
      exact hd

/-- An empty message is said too, and a list in its place is written out. -/
theorem message_agrees_of_bodies :
    let said : Text := "\x7b\"error\":\x7b\"message\":\"\"\x7d\x7d"
    let listed : Text := "\x7b\"error\":[ null ]\x7d"
    ¬(Value.number (.ofNat 404)).IsSuccessStatus ∧
      (∃ e, ofResponse? ⟨.number (.ofNat 404), .string said⟩ (.string said) [] = .ok (some e) ∧
        e.message = .string "HTTP Error: 404, ") ∧
      ∃ e, ofResponse? ⟨.number (.ofNat 404), .string listed⟩ (.string listed) [] = .ok (some e) ∧
        e.message = .string "HTTP Error: 404, [null]" := by
  intro said listed
  have hx : ¬(Value.number (.ofNat 404)).IsSuccessStatus := by
    rw [Value.isSuccessStatus_ofNat]
    decide
  have htext : (Double.ofNat 404).toText = "404" := by decide +kernel
  have hsaid : (ServiceError.parse said).message = some [] := by decide +kernel
  have hlisted : (ServiceError.parse listed).message = none := by decide +kernel
  obtain ⟨e, he, hmessage, -⟩ := message_agrees hx said
  obtain ⟨e', he', -, hremark⟩ := message_agrees hx listed
  obtain ⟨d, hmessage', hd⟩ := hremark hlisted
  have hparsed : parse? listed = some (.object [("error", .array [.null])]) := rfl
  have hd' : (Json.array [.null]).render = d := (hd _).1 (.list hparsed rfl)
  refine ⟨hx, ⟨e, he, ?_⟩, e', he', ?_⟩
  · rw [hmessage [] hsaid, htext]
    rfl
  · rw [hmessage', ← hd', htext]
    rfl

end HttpError

end ConfigClient
