import ConfigClient.Environment
import ConfigClient.Fault
import ConfigClient.HttpError
import ConfigClient.Interaction
import ConfigClient.Url

/-!
# HTTP client

Authenticated GET requests: the credentials that authenticate them, and the client that sends them.
-/

namespace ConfigClient

/-! ## Credentials

A credential gives access tokens and may know the project it belongs to. It is handed in by the
caller, or it is the default of the machine that the program runs on. The answers of the default
are guarded: a missing token is an error, and a look-up of the project that fails is logged and
gives none.

* `Credential.accessToken`: the token for a request.
* `Credential.projectId`: the project that the credential belongs to.
-/

/-- What supplies access tokens (`Credential`): an object of the caller, or the default of the
machine (`ApplicationDefaultCredential`). -/
inductive Credential where
  /-- Handed in by the caller. It may offer no look-up of the project. -/
  | given (offersProject : Bool)
  /-- The default of the machine. -/
  | applicationDefault

namespace Credential

/-- The error for a default credential that gives no token. -/
def noToken : LibraryError :=
  .raise "Unable to obtain an access token from application default credentials" {}

/-- The access token (`getAccessToken`). That of a credential handed in may be any value. -/
def accessToken : Credential → Attempt Value
  | given _ => Interaction.perform .accessToken
  | applicationDefault =>
    Attempt.andThen (Interaction.perform .accessToken) fun token =>
      if token.holds then Attempt.succeed token else Attempt.raise noToken

/-- Whether the credential can look up the project. -/
def offersProject : Credential → Bool
  | given offersProject => offersProject
  | applicationDefault => true

/-- The project that the credential belongs to, undefined if it knows none (`getProjectId`). -/
def projectId : Credential → Interaction (Except Fault Value)
  | given _ => Interaction.perform .projectId
  | applicationDefault => do
    match ← Interaction.perform .projectId with
    | .ok v => Attempt.succeed v
    | .error f =>
      Attempt.andThen (Attempt.ofExcept f.message.text) fun message =>
        Attempt.afterLog ("Unable to determine project id from credentials: " ++ message)
          (Attempt.succeed .undefined)

end Credential

/-! ## HTTP client

A client sends authenticated GET requests below one URL. Bodies come back as text, and a status
outside of 2xx is an error that carries the response.

* `Client.url`: the URL of a path.
* `Client.headers`: the headers of every request, from those of the caller.
* `Client.get`: one request and its response.
-/

/-- An HTTP client (`Client`) with its options (`ClientOptions`). -/
structure Client where
  /-- The URL below which requests go, without a slash at its end unless it had several. -/
  base : Text
  /-- The part of the path that names the version of the API, if not empty. -/
  apiVersion : Text
  credential : Option Credential

/-- A text without the slash at its end, if there is one. -/
def withoutSlash (t : Text) : Text := if t.endsWith "/" then t.dropLast else t

/-- A response whose body has been read (`ClientResponse`). -/
structure FullResponse where
  response : Response
  body : Text

/-- What is recorded of a response whose body has been read. -/
def FullResponse.record (reply : FullResponse) : ResponseRecord :=
  ⟨.number reply.response.status, .string reply.body⟩

namespace Client

/-- A client for the URLs with a prefix, of which one slash at the end does not count. -/
def create (base apiVersion : Text) (credential : Option Credential) : Client :=
  ⟨withoutSlash base, apiVersion, credential⟩

/-! ### Address and headers -/

/-- The URL of a path, which may lack the slash at its start (`requestURL`). -/
def url (c : Client) (path : Text) : Text :=
  c.base ++ (if c.apiVersion = [] then [] else Text.unit '/' :: c.apiVersion) ++
    (if path.startsWith "/" then path else Text.unit '/' :: path)

/-- The caller's headers with those that every request has (`addRequestHeaders`). The caller may
only choose how the client presents itself. -/
def headers (given : Headers) : Headers :=
  let named := given.set "Connection" "keep-alive"
  let named := if named.has "User-Agent" then named else named.set "User-Agent" Service.clientName
  named.set "X-Client-Version" Service.clientName

/-- The token for requests to a local emulator, which is no secret. -/
def localToken : Value := .string "owner"

/-- The token to present. The one of the credential is only asked for if it will travel encrypted,
that is, under any scheme but `http` (`isLocalInsecureRequest`). -/
def token (c : Client) (credential : Credential) : Attempt Value :=
  match Url.scheme? c.base with
  | none => Attempt.fail (.platform .invalidUrl)
  | some scheme =>
    if scheme = "http".toList then Attempt.succeed localToken else credential.accessToken

/-- The headers with the token, if the client has a credential (`addAuthHeader`). -/
def authorize (c : Client) (h : Headers) : Attempt Headers :=
  match c.credential with
  | none => Attempt.succeed h
  | some credential =>
    Attempt.andThen (c.token credential) fun token =>
      Attempt.ofExcept do h.set? "Authorization" ("Bearer " ++ (← token.text))

/-! ### One exchange -/

/-- An error for a request that brought no response. -/
def failure (url : Text) (f : Fault) : LibraryError :=
  let reason : Text :=
    if f.name.contains "AbortError" then "Timeout reached making request to "
    else "Failed to make request to "
  .raise (reason ++ url) { cause := .fault f }

/-- Send a request and read the body of its response: what `doRequest` tries. -/
def transfer (r : Request) : Interaction (Except Value FullResponse) := do
  match ← Interaction.perform (.send r) with
  | .error v => return .error v
  | .ok response =>
    match ← Interaction.perform .readBody with
    | .error v => return .error v
    | .ok body => return .ok ⟨response, body⟩

/-- A thrown value as a fault (`getError`), and its text. -/
def identify (thrown : Value) : Except PlatformError (Fault × Text) := do
  let f ← thrown.toFault []
  return (f, ← (Value.fault f).text)

/-- What a failed transfer is reported as, and a message about it: what `doRequest` catches. If the
value cannot be written, or the fault has no text, that is what is raised. -/
def explain (url : Text) (thrown : Value) : Interaction Value := do
  match identify thrown with
  | .error e => return .fault (.platform e)
  | .ok (f, text) =>
    Interaction.log ("*** [apiv2] error from fetch(" ++ url ++ ", GET): " ++ text)
    return .fault (.library (failure url f))

/-- A response that arrived: itself if its status is in 2xx, else the error that it makes
(`responseToError`). -/
def judge (reply : FullResponse) : Except Value FullResponse :=
  match HttpError.ofResponse? reply.record (.string reply.body) [] with
  | .ok none => .ok reply
  | .ok (some e) => .error (.fault (.library e))
  | .error e => .error (.fault (.platform e))

/-- A response that arrived with its messages, and what is made of it. -/
def receive (url : Text) (reply : FullResponse) : Interaction (Except Value FullResponse) := do
  Interaction.log ("<<< [apiv2][status] GET " ++ url ++ " " ++ reply.response.status.toText)
  Interaction.log ("<<< [apiv2][body] GET " ++ url ++ " " ++ reply.body)
  return judge reply

/-- Whether a time limit starts a timer: if it counts as true. It has to count as a number then. -/
def isTimed (timeout : Value) : Except PlatformError Bool :=
  if timeout.holds then timeout.number?.map fun _ => true else .ok false

/-- Start a timer if one is wanted. -/
def start (timed : Bool) : Interaction (Option Nat) :=
  if timed then do return some (← Interaction.perform .startTimer) else return none

/-- Stop a timer if one was started. -/
def stop : Option Nat → Interaction Unit
  | some timer => Interaction.perform (.stopTimer timer)
  | none => return

/-- One request with its messages (`doRequest`). A timer that was started is stopped before the
result is judged. -/
def exchange (env : Environment) (url : Text) (h : Headers) (timed : Bool) :
    Interaction (Except Value FullResponse) := do
  let timer ← start timed
  Interaction.log (">>> [apiv2][query] GET " ++ url)
  match ← transfer ⟨url, h, Service.usesProxy env, timer⟩ with
  | .error thrown =>
    let v ← explain url thrown
    stop timer
    return .error v
  | .ok reply =>
    stop timer
    receive url reply

/-- The error for a thrown value that is the reason why a request failed. -/
def failureFor (thrown : Value) : Except PlatformError LibraryError := do
  let f ← thrown.toFault []
  return .raise ("Failed to make request: " ++ (← f.message.text)) { cause := .fault f }

/-- What a value thrown during a request is raised as: an error of the library as itself, anything
else as the reason of a new one. This is what `get` catches. -/
def surface (thrown : Value) : Fault :=
  match thrown with
  | .fault (.library e) => .library e
  | v =>
    match failureFor v with
    | .ok e => .library e
    | .error e => .platform e

/-- A path, or the value that is thrown when it is used. -/
abbrev Path := Except Value Text

/-- A GET request for a path (`get`). Headers and credential are settled before the path is used,
and their errors are raised as they are. -/
def get (c : Client) (env : Environment) (path : Path) (given timeout : Value) :
    Attempt FullResponse :=
  Attempt.andThen (Attempt.ofExcept (Headers.ofValue given)) fun given =>
  Attempt.andThen (c.authorize (headers given)) fun h =>
    let result : Interaction (Except Value FullResponse) := match path, isTimed timeout with
      | .error v, _ => .done (.error v)
      | .ok _, .error e => .done (.error (.fault (.platform e)))
      | .ok path, .ok timed => exchange env (c.url path) h timed
    result.bind fun
      | .ok reply => Attempt.succeed reply
      | .error v => Attempt.fail (surface v)

end Client

end ConfigClient
