import ConfigClient.Fault
import ConfigClient.Json
import ConfigClient.Value

/-!
# Error responses

What a response outside of 2xx is turned into, and what the service itself says in the body of one.
-/

namespace ConfigClient

/-! ## Errors for HTTP responses

A response outside of 2xx becomes an error whose context holds the response and its body. The body
is normalised so that it always has an `error` entry that says what went wrong.

* `ResponseRecord`: status and raw content of a response.
* `HttpError.body`: the normalised body.
* `HttpError.ofResponse?`: the error for a response, none for 2xx.
* `LibraryError.response?`: the response that an error was built from.
-/

/-- What is known of a response (`HttpResponseInfo`). The caller may give anything. -/
structure ResponseRecord where
  statusCode : Value
  /-- The body as it was read, undefined if it was not. -/
  content : Value

namespace ResponseRecord

/-- A record as the value that an error holds. -/
def value (r : ResponseRecord) : Value :=
  if r.content.isUndefined then .object [("statusCode", r.statusCode)]
  else .object [("statusCode", r.statusCode), ("content", r.content)]

/-- Whether the status is in the range 200 to 299. -/
def isSuccess (r : ResponseRecord) : Except PlatformError Bool := do
  return (← r.statusCode.isAtLeast 200) && !(← r.statusCode.isAtLeast 300)

/-- Whether the status is the number 404. -/
def isNotFound (r : ResponseRecord) : Bool :=
  match r.statusCode with
  | .number x => x == .ofNat 404
  | _ => false

/-- Whether the status is 500 or more: a failure that is not expected to happen. -/
def isServerFailure (r : ResponseRecord) : Except PlatformError Bool := r.statusCode.isAtLeast 500

end ResponseRecord

namespace HttpError

/-- An entry that says only what happened. -/
def messageEntry (message : Text) : Value := .object [("message", .string message)]

/-- An `error` entry that can stand as it is: a text or anything with fields. -/
def isUsable (v : Value) : Bool := v.isObject || v.string?.isSome

/-- The `error` entry for a body that has no usable one. -/
def fallback (r : ResponseRecord) : Value :=
  messageEntry (if r.isNotFound then "Not Found" else "Unknown Error")

/-- The members of a body that is no text, with a usable `error` entry. -/
def complete (r : ResponseRecord) (body : Value) : Members Value :=
  let entry := body.field "error"
  Members.insert body.members "error" (if isUsable entry then entry else fallback r)

/-- The normalised body (`toErrorBody`). A text that is not empty is read as JSON; if it is not JSON
it becomes the message, except that the message for 404 is fixed. -/
def body (r : ResponseRecord) : Value → Members Value
  | .string (u :: rest) =>
    match Json.parse? (u :: rest) with
    | some j => complete r (.ofJson j)
    | none => [("error", messageEntry (if r.isNotFound then "Not Found" else u :: rest))]
  | v => complete r v

/-- What an `error` entry says: a text itself, its message, or else its JSON text. -/
def detail (entry : Value) : Except PlatformError Text :=
  match entry, entry.field "message" with
  | .string t, _ => .ok t
  | _, .string t => .ok t
  | _, _ => do return (← entry.jsonText?).getD "undefined"

/-- What the error for a response says. The URL is named if there is one. -/
def message (status url detail : Text) : Text :=
  let text := "HTTP Error: " ++ status ++ ", " ++ detail
  if url = [] then text else "Request to " ++ url ++ " had " ++ text

/-- What the error for a response holds (`HttpErrorContext`): the body and the response. -/
def context (r : ResponseRecord) (body : Members Value) : Value :=
  .object [("body", .object body), ("response", r.value)]

/-- The error for a response with a given body, none for a status in 2xx (`responseToError`). -/
def ofResponse? (r : ResponseRecord) (content : Value) (url : Text) :
    Except PlatformError (Option LibraryError) := do
  if ← r.isSuccess then return none
  let body := body r content
  let detail ← detail ((Members.get? body "error").getD .undefined)
  let status ← r.statusCode.addedText
  let exit := if ← r.isServerFailure then 2 else 1
  return some (.raise (message status url detail) {
    context := context r body
    exit := .number (.ofNat exit)
    status := r.statusCode })

end HttpError

/-- The response that an error was built from, as its context tells (`getHttpResponse`). -/
def LibraryError.response? (e : LibraryError) : Option ResponseRecord :=
  let response := (e.held e.context).field "response"
  let content := match response.field "content" with
    | .string t => .string t
    | _ => .undefined
  match response.field "statusCode" with
  | .number statusCode => some ⟨.number statusCode, content⟩
  | _ => none

/-! ## Error responses of the service

The service describes a failure as an object `error` with a status, a message and details. Nothing
is taken for granted about what arrives: a field that is missing or of another kind is absent, and
content that is not JSON is an empty description.

* `ServiceError.parse`: the description in the content of a response.
* `ServiceError.status`, `ServiceError.message`, `ServiceError.code`: its parts.
-/

/-- What the service says of a failure (`RemoteConfigServiceErrorResponse`). -/
structure ServiceError where
  /-- The members of the `error` object. -/
  entries : Members Json := []

namespace ServiceError

/-- The description in the body of a response, empty if its `error` is no object. -/
def ofJson : Json → ServiceError
  | .object members =>
    match Members.get? members "error" with
    | some (.object entries) => ⟨entries⟩
    | _ => ⟨[]⟩
  | _ => ⟨[]⟩

/-- The description in the text of a body (`parse`). -/
def parse (content : Text) : ServiceError :=
  match Json.parse? content with
  | some j => ofJson j
  | none => ⟨[]⟩

/-- A member that is a text (`stringField`). -/
def textOf (members : Members Json) (key : Text) : Option Text :=
  match Members.get? members key with
  | some (.string t) => some t
  | _ => none

/-- The status that the service gives (`getStatus`). -/
def status (e : ServiceError) : Option Text := textOf e.entries "status"

/-- The message that the service gives (`getErrorMessage`). -/
def message (e : ServiceError) : Option Text := textOf e.entries "message"

/-- The type of the details that carry an error code (`RC_ERROR_TYPE`). -/
def detailType : Text := "type.googleapis.com/google.firebase.fcm.v1.FcmError"

/-- The members of a detail that carries an error code. -/
def coded? : Json → Option (Members Json)
  | .object members => if textOf members "@type" = some detailType then some members else none
  | _ => none

/-- The error code of the first detail that carries one, if it is known
(`getRemoteConfigErrorCode`). Later details do not count. -/
def code (e : ServiceError) : Option ErrorCode :=
  match Members.get? e.entries "details" with
  | some (.array details) =>
    (details.findSome? coded?).bind fun detail =>
      (textOf detail "errorCode").bind ErrorCode.ofText?
  | _ => none

end ServiceError

end ConfigClient
