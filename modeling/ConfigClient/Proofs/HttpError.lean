import ConfigClient.HttpError
import ConfigClient.Proofs.Double.Whole
import ConfigClient.Proofs.Holding

/-!
# Errors for HTTP responses

Which responses become an error, and which one. A body that is a text never stands in the way of the
error: its `error` entry always says something.

* `json?_ofJson`: a value that came from JSON denotes that JSON value again.
* `IsSuccessStatus`: the statuses in 2xx, for whole numbers those from 200 to 299.
* `ofResponse?_cases`: what becomes of any response.
* `ofResponse?_of_detail`: the error for a number as its status, given what its body says.
* `ofResponse?_of_number`, `ofResponse?_of_failure`: the error for a number or a whole status, and a
  text.
-/

namespace ConfigClient

/-! ## Values from JSON -/

namespace Value

/-- A member that came from JSON is no operation. -/
theorem reply?_ofJsonMembers (members : List (Text × Json)) (key : Text) :
    reply? (ofJsonMembers members) key = none := by
  rw [reply?, get?_ofJsonMembers]
  cases Members.get? members key with
  | none => rfl
  | some j => cases j <;> rfl

mutual

theorem write_ofJson (around : List Link) (place : Place) (j : Json) :
    (ofJson j).write around place = .ok (some j) := by
  cases j with
  | null => rfl
  | bool b => rfl
  | number x => rfl
  | string t => rfl
  | array items =>
    rw [ofJson, write, writeItems_ofJson]
    rfl
  | object members =>
    rw [ofJson, write, reply?_ofJsonMembers, writeMembers_ofJson]
    rfl

theorem writeItems_ofJson (around : List Link) (place : Nat) (items : List Json) :
    writeItems around place (ofJsonItems items) = .ok items := by
  cases items with
  | nil => rfl
  | cons j rest =>
    rw [ofJsonItems, writeItems, writeItems_ofJson, write_ofJson]
    rfl

theorem writeMembers_ofJson (around : List Link) (members : List (Text × Json)) :
    writeMembers around (ofJsonMembers members) = .ok members := by
  cases members with
  | nil => rfl
  | cons m rest =>
    rw [ofJsonMembers, writeMembers, writeMembers_ofJson, write_ofJson]
    rfl

end

/-- A value that came from JSON denotes that JSON value again. -/
theorem json?_ofJson (j : Json) : (ofJson j).json? = .ok (some j) := write_ofJson _ _ j

/-- A status in 2xx: at least 200 and less than 300. -/
def IsSuccessStatus (v : Value) : Prop := v.isAtLeast 200 = .ok true ∧ v.isAtLeast 300 = .ok false

theorem isSuccessStatus_ofNat (n : Nat) :
    (number (.ofNat n)).IsSuccessStatus ↔ 200 ≤ n ∧ n ≤ 299 := by
  unfold IsSuccessStatus
  rw [isAtLeast_ofNat (by decide), isAtLeast_ofNat (by decide)]
  simp only [Except.ok.injEq, decide_eq_true_eq, decide_eq_false_iff_not]
  omega

end Value

namespace ResponseRecord

theorem isSuccess_of_isAtLeast {r : ResponseRecord} {a b : Bool}
    (ha : r.statusCode.isAtLeast 200 = .ok a) (hb : r.statusCode.isAtLeast 300 = .ok b) :
    r.isSuccess = .ok (a && !b) := by
  unfold isSuccess
  rw [ha, hb]
  rfl

theorem isSuccess_eq_ok_true_iff (r : ResponseRecord) :
    r.isSuccess = .ok true ↔ r.statusCode.IsSuccessStatus := by
  unfold Value.IsSuccessStatus
  cases ha : r.statusCode.isAtLeast 200 with
  | error e => simp [isSuccess, ha, bind, Except.bind]
  | ok a =>
    cases hb : r.statusCode.isAtLeast 300 with
    | error e => simp [isSuccess, ha, hb, bind, Except.bind]
    | ok b =>
      rw [isSuccess_of_isAtLeast ha hb]
      cases a <;> cases b <;> simp

theorem isSuccess_number (x : Double) (content : Value) :
    isSuccess ⟨.number x, content⟩ =
      .ok (Double.le (.ofNat 200) x && !Double.le (.ofNat 300) x) :=
  isSuccess_of_isAtLeast rfl rfl

end ResponseRecord

theorem LibraryError.settle_number {x : Double} (hx : x ≠ .nan) (default : Value) :
    settle (.number x) default = .number x := by
  cases x with
  | nan => exact absurd rfl hx
  | _ => rfl

namespace HttpError

/-- What becomes of a response: nothing for a status in 2xx, else an error that the library raises
itself, unless its text or status cannot be told. -/
theorem ofResponse?_cases (r : ResponseRecord) (content : Value) (url : Text) :
    (ofResponse? r content url = .ok none ∧ r.statusCode.IsSuccessStatus) ∨
      ¬r.statusCode.IsSuccessStatus ∧
        ((∃ message options, ofResponse? r content url = .ok (some (.raise message options))) ∨
          ∃ e, ofResponse? r content url = .error e) := by
  rw [← ResponseRecord.isSuccess_eq_ok_true_iff]
  unfold ofResponse?
  cases r.isSuccess with
  | error e => exact .inr ⟨by simp, .inr ⟨e, rfl⟩⟩
  | ok success =>
    cases success with
    | true => exact .inl ⟨rfl, rfl⟩
    | false =>
      refine .inr ⟨by simp, ?_⟩
      simp only [bind, Except.bind, Bool.false_eq_true, ite_false]
      split
      · exact .inr ⟨_, rfl⟩
      · split
        · exact .inr ⟨_, rfl⟩
        · split
          · exact .inr ⟨_, rfl⟩
          · exact .inl ⟨_, _, rfl⟩

/-- A status in 2xx makes no error. -/
theorem ofResponse?_of_success {r : ResponseRecord} (hr : r.statusCode.IsSuccessStatus)
    (content : Value) (url : Text) : ofResponse? r content url = .ok none := by
  unfold ofResponse?
  rw [(ResponseRecord.isSuccess_eq_ok_true_iff r).2 hr]
  rfl

/-! ## Responses with a text as body -/

theorem detail_of_json? {entry : Value} {j : Option Json} (h : entry.json? = .ok j) :
    ∃ text, detail entry = .ok text := by
  unfold detail Value.jsonText?
  rw [h]
  split
  · exact ⟨_, rfl⟩
  · exact ⟨_, rfl⟩
  · exact ⟨_, rfl⟩

theorem json?_messageEntry (t : Text) :
    (messageEntry t).json? = .ok (some (.object [("message", .string t)])) := rfl

theorem get?_complete (r : ResponseRecord) (v : Value) :
    Members.get? (complete r v) "error" =
      some (if isUsable (v.field "error") then v.field "error" else fallback r) := by
  unfold complete
  rw [Members.get?_insert, if_pos rfl]

/-- What the `error` entry says that is made from a JSON value. -/
theorem detail_complete (r : ResponseRecord) (j : Json) :
    ∃ text, detail ((Members.get? (complete r (.ofJson j)) "error").getD .undefined) =
      .ok text := by
  rw [get?_complete, Option.getD_some, Value.field_ofJson]
  cases j.field? "error" with
  | none => exact detail_of_json? (json?_messageEntry _)
  | some entry =>
    simp only [Option.map_some, Option.getD_some]
    split_ifs
    · exact detail_of_json? (Value.json?_ofJson entry)
    · exact detail_of_json? (json?_messageEntry _)

/-- The `error` entry of a body that is a text always says something. -/
theorem detail_body (r : ResponseRecord) (t : Text) :
    ∃ text, detail ((Members.get? (body r (.string t)) "error").getD .undefined) = .ok text := by
  cases t with
  | nil =>
    rw [body, get?_complete, Option.getD_some]
    · exact detail_of_json? (json?_messageEntry _)
    · nofun
  | cons u rest =>
    rw [body]
    split
    · exact detail_complete r _
    · exact detail_of_json? (json?_messageEntry _)

/-- The error for a response with a number outside of 2xx as its status, given what the `error`
entry of its body says. -/
theorem ofResponse?_of_detail {x : Double} (hx : ¬(Value.number x).IsSuccessStatus)
    {content v : Value} {said : Text}
    (hsaid : detail ((Members.get? (body ⟨.number x, content⟩ v) "error").getD .undefined) =
      .ok said) (url : Text) :
    let r : ResponseRecord := ⟨.number x, content⟩
    ofResponse? r v url = .ok (some (.raise (message x.toText url said) {
      context := context r (body r v)
      exit := .number (.ofNat (if Double.le (.ofNat 500) x then 2 else 1))
      status := .number x })) := by
  simp only
  have hfailure : ResponseRecord.isSuccess ⟨.number x, content⟩ = .ok false := by
    have hsuccess := (ResponseRecord.isSuccess_eq_ok_true_iff ⟨.number x, content⟩).not.2 hx
    rw [ResponseRecord.isSuccess_number] at hsuccess ⊢
    rw [Except.ok.injEq, Bool.not_eq_true] at hsuccess
    rw [hsuccess]
  have htext : (Value.number x).addedText = .ok x.toText := rfl
  have hserver : ResponseRecord.isServerFailure ⟨.number x, content⟩ =
      .ok (Double.le (.ofNat 500) x) := rfl
  unfold ofResponse?
  rw [hfailure, hserver]
  simp only [hsaid, htext, bind, Except.bind, pure, Except.pure, Bool.false_eq_true, ite_false]

/-- The error for a response with a number outside of 2xx as its status and a text as its body. -/
theorem ofResponse?_of_number {x : Double} (hx : ¬(Value.number x).IsSuccessStatus)
    (content : Value) (t url : Text) :
    let r : ResponseRecord := ⟨.number x, content⟩
    ∃ text, ofResponse? r (.string t) url = .ok (some (.raise text {
      context := context r (body r (.string t))
      exit := .number (.ofNat (if Double.le (.ofNat 500) x then 2 else 1))
      status := .number x })) := by
  simp only
  obtain ⟨said, hsaid⟩ := detail_body ⟨.number x, content⟩ t
  exact ⟨_, ofResponse?_of_detail hx hsaid url⟩

/-- The error for a response with a whole status outside of 2xx and a text as body. -/
theorem ofResponse?_of_failure {n : Nat} (hn : ¬(200 ≤ n ∧ n ≤ 299)) (content : Value)
    (t url : Text) :
    let r : ResponseRecord := ⟨.number (.ofNat n), content⟩
    ∃ text, ofResponse? r (.string t) url = .ok (some (.raise text {
      context := context r (body r (.string t))
      exit := .number (.ofNat (if 500 ≤ n then 2 else 1))
      status := .number (.ofNat n) })) := by
  obtain ⟨text, h⟩ := ofResponse?_of_number ((Value.isSuccessStatus_ofNat n).not.2 hn) content t url
  simp only [Double.le_ofNat_ofNat (show 500 < 2 ^ 53 by decide) n, decide_eq_true_eq] at h
  exact ⟨text, h⟩

end HttpError

end ConfigClient
