import ConfigClient.Value

/-!
# Building faults

* `LibraryError.create`: an error of the library from a message and options; options that are
  absent, and those that are no number although they should be one, take their defaults.
* `LibraryError.withCode`: an error as an error of a Remote Config request.
* `Value.message`: the message that a thrown value carries.
* `Value.toFault`: a thrown value as a fault.
-/

namespace ConfigClient

/-! ## Errors of the library -/

/-- What can be said of an error beside its message (`AdminErrorOptions`). The caller may give
anything. -/
structure LibraryError.Options where
  children : Value := .undefined
  context : Value := .undefined
  exit : Value := .undefined
  cause : Value := .undefined
  status : Value := .undefined

namespace LibraryError

/-- A value, or its default where it is missing or `nan` (`defaultTo`). -/
def settle (v default : Value) : Value :=
  match v with
  | .undefined => default
  | .null => default
  | .number .nan => default
  | v => v

/-- An error of the library from its options (the constructor of `AdminError`). -/
def create (kind : Kind) (message : Value) (options : Options) (stack : Text) : LibraryError where
  kind
  message
  children := settle options.children (.array [])
  context := options.context
  exit := settle options.exit (.number (.ofNat 1))
  cause := options.cause
  status := settle options.status (.number (.ofNat 500))
  stack

/-- An error raised by the library itself. -/
def raise (message : Text) (options : Options) : LibraryError :=
  create .general (.string message) options []

/-- The error of a Remote Config request for an error that occurred in it
(`withRemoteConfigErrorCode`). Everything but the kind and the children is kept, and the error
itself becomes the one behind the new one. -/
def withCode (base : LibraryError) (code : Value) : LibraryError :=
  create (.request code) (base.held base.message) {
    context := base.held base.context
    exit := base.held base.exit
    cause := .fault (.library base)
    status := base.held base.status } []

/-- Some error. -/
instance : Inhabited LibraryError := ⟨raise [] {}⟩

/-- Options given as a value: its fields. -/
def Options.ofValue? (v : Value) : Except PlatformError Options :=
  if v.isMissing then .error .wrongKind
  else .ok {
    children := v.field "children"
    context := v.field "context"
    exit := v.field "exit"
    cause := v.field "original"
    status := v.field "status" }

/-- What `withCode` makes of a value that stands in the place of an error: its fields count as
those of one. -/
def ofValue? (base code : Value) : Except PlatformError LibraryError := do
  let options ← Options.ofValue? base
  return create (.request code) (base.field "message")
    { options with children := .undefined, cause := base } []

end LibraryError

/-! ## Thrown values -/

namespace Value

/-- The message of a thrown value (`getErrMsg`): that of an error, a text itself, else the default
if it counts as true, else the JSON text, which an undefined value does not have. -/
def message (v default : Value) : Except PlatformError Value :=
  match v with
  | fault f => .ok f.message
  | string t => .ok (string t)
  | v =>
    if default.holds then .ok default
    else do return ((← v.jsonText?).map string).getD undefined

/-- A thrown value as a fault (`getError`): an error is itself, anything else becomes the message of
one. -/
def toFault (v : Value) (stack : Text) : Except PlatformError Fault :=
  match v with
  | fault f => .ok f
  | string t => .ok (.plain "Error" t stack)
  | v => do return .plain "Error" ((← v.jsonText?).getD []) stack

end Value

end ConfigClient
