import ConfigClient.Fault
import ConfigClient.Json

/-!
# Templates

A template holds the conditions, the parameters and the parameter groups of a project, and a
version if it has one. Its ETag comes with the response and not in the body.

* `Template.ofJson?`: the template in a body, none when a part has the wrong kind.
* `Template.parse`: the template in the text of a body.
* `Template.json`: the template as a JSON value.
-/

namespace ConfigClient

/-- The colours in which a condition can be shown (`TagColor`). -/
inductive ConditionColor where
  | blue
  | brown
  | cyan
  | deepOrange
  | green
  | indigo
  | lime
  | orange
  | pink
  | purple
  | teal
  deriving DecidableEq

namespace ConditionColor

/-- All colours. -/
def all : List ConditionColor :=
  [blue, brown, cyan, deepOrange, green, indigo, lime, orange, pink, purple, teal]

/-- A colour as the service writes it. -/
def text : ConditionColor → Text
  | blue => "BLUE"
  | brown => "BROWN"
  | cyan => "CYAN"
  | deepOrange => "DEEP_ORANGE"
  | green => "GREEN"
  | indigo => "INDIGO"
  | lime => "LIME"
  | orange => "ORANGE"
  | pink => "PINK"
  | purple => "PURPLE"
  | teal => "TEAL"

end ConditionColor

/-- The template of a project (`RemoteConfigTemplate`). Its parts are kept as they came. -/
structure Template where
  conditions : Json
  parameters : Json
  parameterGroups : Json
  etag : Text
  version : Option Json

namespace Template

/-! ## Shape -/

/-- Whether a value is an array. -/
def isList : Json → Bool
  | .array _ => true
  | _ => false

/-- Whether a value has fields. -/
def isRecord : Json → Bool
  | .array _ => true
  | .object _ => true
  | _ => false

/-- A part of a body: absent, or of the kind that is asked for. -/
def part? (members : Members Json) (key : Text) (kind : Json → Bool) : Option (Option Json) :=
  match Members.get? members key with
  | none => some none
  | some v => if kind v then some (some v) else none

/-- The template in a body (`isRawTemplate`). Parts that are absent are empty, except for the
version. -/
def ofJson? (body : Json) (etag : Text) : Option Template :=
  match body with
  | .object members => do
    let conditions ← part? members "conditions" isList
    let parameters ← part? members "parameters" isRecord
    let parameterGroups ← part? members "parameterGroups" isRecord
    let version ← part? members "version" isRecord
    return {
      conditions := conditions.getD (.array [])
      parameters := parameters.getD (.object [])
      parameterGroups := parameterGroups.getD (.object [])
      etag
      version }
  | _ => none

/-! ## Reading and writing -/

/-- The error for a body that is not JSON. -/
def notJson : LibraryError :=
  let e : PlatformError := .malformedJson
  .raise ("Unable to parse Remote Config template: " ++ e.message)
    { cause := .fault (.platform e) }

/-- The error for a body that is JSON but no template. -/
def malformed : LibraryError := .raise "Remote Config service returned a malformed template." {}

/-- The template in the text of a body (`parseTemplate`). -/
def parse (content etag : Text) : Except LibraryError Template :=
  match Json.parse? content with
  | none => .error notJson
  | some body =>
    match ofJson? body etag with
    | none => .error malformed
    | some t => .ok t

/-- A template as JSON, without the version if it has none. -/
def json (t : Template) : Json :=
  let shared : Members Json :=
    [("conditions", t.conditions), ("parameters", t.parameters),
      ("parameterGroups", t.parameterGroups), ("etag", .string t.etag)]
  match t.version with
  | none => .object shared
  | some v => .object (shared ++ [(("version" : Text), v)])

end Template

end ConfigClient
