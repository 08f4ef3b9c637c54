import ConfigClient.Client
import ConfigClient.HttpError
import ConfigClient.Template

/-!
# Template client

Reads the template of one project from the service.

* `TemplateClient.create`, `TemplateClient.ofEnvironment`: a client from options, the second with
  a project that may be found in the environment or through the credential.
* `TemplateClient.url`: where the template is.
* `TemplateClient.fetch`: the template. If a request fails the error carries the code that the
  service reported.
-/

namespace ConfigClient

/-- A client for the template of one project (`RemoteConfigClient`). -/
structure TemplateClient where
  /-- The project. It counts as true, and it need not have a text. -/
  projectId : Value
  /-- The origin of the service without the slash at its end. -/
  origin : Text
  credential : Credential
  /-- The time limit of a request, if it counts as true. -/
  timeout : Value

namespace TemplateClient

/-! ## Building -/

/-- What a client is built from (`RemoteConfigClientOptions`). The caller may give anything. -/
structure Options where
  projectId : Value := .undefined
  /-- The default of the machine if absent. -/
  credential : Option Credential := none
  timeout : Value := .undefined
  /-- The origin that the environment gives if missing. -/
  origin : Value := .undefined

/-- The credential in the options, else the default of the machine. -/
def Options.credentialOrDefault (o : Options) : Credential :=
  o.credential.getD .applicationDefault

/-- The error for a client without a project (`MISSING_PROJECT_ID_MESSAGE`). -/
def missingProject : LibraryError :=
  .raise ("Project ID is required to access Remote Config service. Use a service account " ++
    "credential or set the project ID explicitly via the projectId option. " ++
    "Alternatively you can also set the project ID via the GOOGLE_CLOUD_PROJECT " ++
    "environment variable.") { exit := .number (.ofNat 2) }

/-- The origin in the options or the environment. It has to be a text. -/
def Options.originIn (o : Options) (env : Environment) : Except PlatformError Text :=
  match o.origin with
  | .undefined => .ok (Service.origin env)
  | .null => .ok (Service.origin env)
  | .string t => .ok t
  | _ => .error .wrongKind

/-- The client that options with a project describe. -/
def Options.client (o : Options) (env : Environment) : Except PlatformError TemplateClient := do
  return {
    projectId := o.projectId
    origin := withoutSlash (← o.originIn env)
    credential := o.credentialOrDefault
    timeout := o.timeout }

/-- A client for the project in the options (the constructor of `RemoteConfigClient`). -/
def create (env : Environment) (o : Options) : Except Fault TemplateClient :=
  if !o.projectId.holds then .error (.library missingProject)
  else match o.client env with
    | .error e => .error (.platform e)
    | .ok c => .ok c

/-- A project that is known without asking the credential: that of the options, else that of the
environment. -/
def knownProject (env : Environment) (o : Options) : Value :=
  if o.projectId.holds then o.projectId else env.first Service.projectVariables

/-- A client for the project in the options or the environment, or the one that the credential
belongs to (`fromEnvironment`). The credential is asked only if it has to be. -/
def ofEnvironment (env : Environment) (o : Options) : Attempt TemplateClient :=
  let credential := o.credentialOrDefault
  let known := knownProject env o
  let project : Attempt Value :=
    if !known.holds && credential.offersProject then credential.projectId
    else Attempt.succeed known
  Attempt.andThen project fun projectId =>
    .done (create env { o with projectId, credential := some credential })

/-! ## Templates -/

/-- The path of the template (`templatePath`). -/
def path (c : TemplateClient) : Except PlatformError Text := do
  return "/projects/" ++ (← c.projectId.text) ++ "/remoteConfig"

/-- The URL of the template (`getTemplateUrl`). -/
def url (c : TemplateClient) : Except PlatformError Text := do
  return c.origin ++ "/v1" ++ (← c.path)

/-- The client that sends the requests. -/
def http (c : TemplateClient) : Client := .create c.origin "v1" (some c.credential)

/-- The headers of a request for a template (`COMMON_HEADERS`). -/
def commonHeaders : Value := .object [("X-Firebase-Client", .string Service.templateClientName)]

/-- The request for the template. -/
def request (c : TemplateClient) (env : Environment) : Attempt FullResponse :=
  Attempt.andThen (Attempt.ofExcept c.path) fun path =>
    c.http.get env (.ok path) commonHeaders c.timeout

/-- The error of a failed request, with the code in the response that the failure came from
(`createRemoteConfigError`). -/
def requestError (f : Fault) : LibraryError :=
  let base : LibraryError := match f with
    | .library e => e
    | f => .create .general f.message { cause := .fault f } []
  let content := match base.response? with
    | some ⟨_, .string content⟩ => content
    | _ => []
  base.withCode (ErrorCode.reported (ServiceError.parse content).code)

/-- What is logged about a failed request. Project and message need a text for that. -/
def failureLine (c : TemplateClient) (f : Fault) : Except PlatformError Text := do
  return "Failed to get Remote Config template for " ++ (← c.projectId.text) ++ ": " ++
    (← f.message.text)

/-- The error for a template without an ETag. -/
def missingEtag (projectId : Text) : LibraryError :=
  .raise ("Remote Config template for project " ++ projectId ++
    " was returned without an ETag.") {}

/-- The template in a response. -/
def read (c : TemplateClient) (reply : FullResponse) : Except Fault Template :=
  match reply.response.headers.get? "etag" with
  | none =>
    match c.projectId.text with
    | .error e => .error (.platform e)
    | .ok projectId => .error (.library (missingEtag projectId))
  | some etag => (Template.parse reply.body etag).mapError .library

/-- The template of the project (`getTemplate`). -/
def fetch (c : TemplateClient) (env : Environment) : Interaction (Except Fault Template) := do
  match ← c.request env with
  | .error f =>
    Attempt.andThen (Attempt.ofExcept (c.failureLine f)) fun line =>
      Attempt.afterLog line (Attempt.raise (requestError f))
  | .ok reply => return c.read reply

end TemplateClient

end ConfigClient
