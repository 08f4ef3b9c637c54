import ConfigClient.Value

/-!
# Environment and service

Environment variables, what a program that runs for a while records of them, and what the service
and this client of it fix or leave to them.
-/

namespace ConfigClient

/-! ## What every record answers to

A record, such as a table of names or the environment, answers to some names although it does not
hold them: they belong to the record behind all records.

* `Inherited.value?`: what such a name stands for.
-/

namespace Inherited

/-- The operations that every record has, with the number of their parameters and what a call
without any gives. Those that fail then are given no reply. -/
def operations : List (Text × Nat × Option Json) :=
  [("constructor", 0, some (.object [])), ("toString", 0, some (.string "[object Object]")),
    ("toLocaleString", 0, some (.string "[object Object]")), ("valueOf", 0, some (.object [])),
    ("hasOwnProperty", 1, some (.bool false)), ("isPrototypeOf", 1, some (.bool false)),
    ("propertyIsEnumerable", 1, some (.bool false)), ("__defineGetter__", 2, none),
    ("__defineSetter__", 2, none), ("__lookupGetter__", 1, none), ("__lookupSetter__", 1, none)]

/-- The name of the record behind all records, which shows no members of its own. -/
def recordName : Text := "__proto__"

/-- What a name stands for that is inherited. -/
def value? (name : Text) : Option Value :=
  match operations.lookup name with
  | some (parameters, reply) => some (.operation name parameters reply)
  | none => if name = recordName then some (.object []) else none

end Inherited

/-! ## Environment variables

An environment gives texts to names. It keeps names and values only up to their first zero
character, and a name that is empty or has an equals sign in it is never set. Reading it as a record
also finds what every record answers to.

* `Environment.lookup`: what a name stands for.
* `Environment.first`: what the first of several names stands for that stands for something.
* `Environment.override`: a default that a variable replaces. A variable counts if it is set and
  not empty; its value may pass through a coercion, and if that fails the default stays.
* `Session`: an environment that changes over time, with the names of the variables that have
  replaced a default so far.
-/

/-- The value of each variable that is set. -/
abbrev Environment := Text → Option Text

namespace Environment

/-- No variable is set. -/
def empty : Environment := fun _ => none

/-! ### Variables -/

/-- What the environment keeps of a text. -/
def kept (t : Text) : Text := Text.scalar (t.takeWhile (· ≠ 0))

/-- Whether a variable can have a name. -/
def isName (name : Text) : Bool := name ≠ [] && !List.elem (Text.unit '=') name

/-- The environment with a variable set. A name that cannot be one changes nothing. -/
def set (env : Environment) (name value : Text) : Environment :=
  let name := kept name
  if isName name then fun n => if n = name then some (kept value) else env n else env

/-- The environment without a variable. -/
def unset (env : Environment) (name : Text) : Environment :=
  fun n => if n = kept name then none else env n

/-- The environment in which variables have been set one after another. -/
def ofList (entries : List (Text × Text)) : Environment :=
  entries.foldl (fun env m => env.set m.1 m.2) empty

/-- The value of a variable that is set and not empty. -/
def value? (env : Environment) (name : Text) : Option Text := (env (kept name)).filter (· ≠ [])

/-! ### Look-up -/

/-- What a name stands for: the value of the variable, else what every record answers to. -/
def lookup (env : Environment) (name : Text) : Value :=
  match env (kept name) with
  | some value => .string value
  | none => (Inherited.value? name).getD .undefined

/-- What the first of several names stands for whose value counts as true, else undefined
(`firstEnv`). -/
def first (env : Environment) (names : List Text) : Value :=
  ((names.map env.lookup).find? Value.holds).getD .undefined

/-- Whether a value replaces a default: a text or an operation, if there is anything to it. -/
def replaces : Value → Bool
  | .string t => t ≠ []
  | .operation _ parameters _ => parameters ≠ 0
  | _ => false

/-- Whether a name stands for something that replaces a default. -/
def counts (env : Environment) (name : Text) : Bool := replaces (env.lookup name)

/-- A coercion makes a value usable, given the default beside it, or fails. -/
abbrev Coercion := Value → Value → Option Value

/-- The value that stands for `default`: that of the name, coerced, if it counts (`envOverride`). -/
def override (env : Environment) (name : Text) (default : Value) (coerce : Option Coercion) :
    Value :=
  if env.counts name then
    match coerce with
    | none => env.lookup name
    | some f => (f (env.lookup name) default).getD default
  else default

end Environment

/-! ### Sessions -/

/-- A program under way: its environment and what has been recorded of it (`envOverrides`). -/
structure Session where
  environment : Environment
  /-- The variables that have replaced a default, in order and with repetitions. -/
  overridden : List Text := []

namespace Session

/-- What can happen in a session: a variable is set or unset, or one of the two look-ups is made. -/
inductive Step where
  | set (name value : Text)
  | unset (name : Text)
  | first (names : List Text)
  | override (name : Text) (default : Value) (coerce : Option Environment.Coercion)

/-- What a step gives back: nothing, what `Environment.first` has found, or what
`Environment.override` has chosen. -/
inductive Reply where
  | done
  | found (value : Value)
  | chosen (value : Value)

/-- One step. A variable that counts is recorded whether or not its coercion succeeds. -/
def step (s : Session) : Step → Session × Reply
  | .set name value => ({ s with environment := s.environment.set name value }, .done)
  | .unset name => ({ s with environment := s.environment.unset name }, .done)
  | .first names => (s, .found (s.environment.first names))
  | .override name default coerce =>
    ({ s with
        overridden := s.overridden ++ if s.environment.counts name then [name] else [] },
      .chosen (s.environment.override name default coerce))

/-- The session and the reply after each step. -/
def run (s : Session) : List Step → List (Session × Reply)
  | [] => []
  | step :: rest =>
    let after := s.step step
    after :: after.1.run rest

end Session

/-! ## The service

What is fixed about the service and about this client of it.
-/

namespace Service

/-- The version of this client (`SDK_VERSION`). -/
def version : Text := "0.1.0"

/-- The name and version that requests carry (`CLIENT_HEADER_VALUE`). -/
def clientName : Text := "RemoteConfigAdmin/" ++ version

/-- The name and version that requests for templates carry beside it (`COMMON_HEADERS`). -/
def templateClientName : Text := "remote-config-admin-node/" ++ version

/-- The permissions that an access token has to grant (`REMOTE_CONFIG_SCOPES`). -/
def scopes : List Text :=
  ["https://www.googleapis.com/auth/cloud-platform",
    "https://www.googleapis.com/auth/firebase.remoteconfig"]

/-- The origin of the service where nothing else names one. -/
def defaultOrigin : Text := "https://firebaseremoteconfig.googleapis.com"

/-- The variable that replaces the default origin. -/
def originVariable : Text := "REMOTE_CONFIG_URL"

/-- The origin of the service in an environment (`remoteConfigApiOrigin`). The library reads it
once, when it is loaded; here it is read whenever a client is built, so the environment given to a
client is the one in which the library was loaded. -/
def origin (env : Environment) : Text :=
  (env.override originVariable (.string defaultOrigin) none).string?.getD defaultOrigin

/-- The variables that may name the project, in the order in which they are asked
(`PROJECT_ID_ENV_VARS`). -/
def projectVariables : List Text := ["GOOGLE_CLOUD_PROJECT", "GCLOUD_PROJECT"]

/-- The variables that may name a proxy. -/
def proxyVariables : List Text := ["HTTPS_PROXY", "https_proxy", "HTTP_PROXY", "http_proxy"]

/-- Whether requests go through a proxy (`proxyURIFromEnv`). -/
def usesProxy (env : Environment) : Bool := (env.first proxyVariables).holds

/-- The names that the library exports, with the kind of thing that each stands for. -/
def exports : List (Text × Text) :=
  [("AdminError", "function"), ("ApplicationDefaultCredential", "function"),
    ("RemoteConfigClient", "function"), ("RemoteConfigError", "function"),
    ("RemoteConfigErrorCode", "object"), ("RemoteConfigServiceErrorResponse", "function"),
    ("SDK_VERSION", "string"), ("TagColor", "object"), ("logger", "object"), ("md5", "function"),
    ("pbkdf2Sha256", "function"), ("pbkdfSha1", "function"), ("repeatableHash", "function"),
    ("sha1", "function"), ("sha256", "function"), ("sha512", "function"),
    ("toUploadAccountOptions", "function"), ("useConsoleLoggers", "function"),
    ("useFileLogger", "function")]

end Service

end ConfigClient
