import ConfigClient.Double
import ConfigClient.Json
import ConfigClient.Text

/-!
# Values

Whatever can be handed to the library, thrown through it or attached to an error, together with the
ways in which such a value counts as something else: as a condition, a text, a JSON value, a number.
Not all of them exist for every value, and what the platform raises then is listed first.

* `PlatformError`: the failures that the platform raises by itself.
* `Value`, `Fault`, `LibraryError`: the three kinds of data, which refer to each other. A fault is
  an error of the caller, of the platform or of this library. Nothing keeps a caller from handing
  in values of unexpected kinds, so an error of the library may hold any value in each of its
  fields.
* `Value.ofJson`: a JSON value as a value.
* `Value.holds`, `Value.isObject`: how a value counts as a condition, and whether it has fields.
* `Value.takenFrom`, `Value.items`, `Value.members`, `Value.field`: what a value holds. Values may
  hold themselves, so what is taken out of one still knows where it came from.
* `Fault.name`, `Fault.message`, `Fault.stack`: how a fault presents itself.
* `Value.text`, `Value.addedText`: the text of a value inside a sentence, and of one that is added to
  a text.
* `Value.json?`, `Value.jsonText?`: the JSON value that a value denotes, and its text.
* `Value.number?`, `Value.isAtLeast`: a value as a number.
-/

namespace ConfigClient

/-! ## Platform errors -/

/-- Where a value stands in what holds it. -/
inductive Place where
  | item (place : Nat)
  | member (key : Text)
  deriving DecidableEq

/-- A container with the place where it stands in the one around it. -/
structure Link where
  place : Place
  /-- The name of the container's class. -/
  kind : Text
  deriving DecidableEq

/-- The failures that the platform raises by itself, by cause. -/
inductive PlatformError where
  /-- A text that should be JSON is not. -/
  | malformedJson
  /-- A big integer has no JSON text. -/
  | bigIntegerInJson
  /-- A container that holds itself has no JSON text. `links` are the containers on the way from
  itself to the place where it stands again. -/
  | circular (kind : Text) (links : List Link) (last : Place)
  /-- A value has no text: an object with conversions of its own that give none. -/
  | noText
  /-- An error is to be shown in its own message, without end. -/
  | endless
  /-- A big integer is no number for arithmetic with other numbers. -/
  | bigIntegerInArithmetic
  /-- A text names no big integer. -/
  | noBigInteger
  /-- Headers are given as neither an object nor a list. -/
  | noHeaders
  /-- A header in a list is missing. -/
  | missingHeader
  /-- A header in a list is no list. -/
  | noHeaderPair
  /-- A header in a list is a list, but not of a name and a value. -/
  | headerPairLength
  /-- An operation met a value of the wrong kind. -/
  | wrongKind
  | invalidUrl
  | illegalHeaderName (name : Text)
  | illegalHeaderValue (value : Text)
  deriving DecidableEq

/-- A place as the platform names it. -/
def Place.text : Place → Text
  | item place => "index " ++ Text.ofNat place
  | member key => "property '" ++ key ++ "'"

namespace PlatformError

/-- The class that the platform raises. -/
def name : PlatformError → Text
  | malformedJson => "SyntaxError"
  | noBigInteger => "SyntaxError"
  | endless => "RangeError"
  | _ => "TypeError"

/-- The line for one container on the way around a circle. -/
def linkLine (link : Link) : Text :=
  "\n    |     " ++ link.place.text ++ " -> object with constructor '" ++ link.kind ++ "'"

/-- The lines for the containers on the way around a circle: of more than three the first two and
the last. -/
def linkLines (links : List Link) : Text :=
  if links.length ≤ 3 then links.flatMap linkLine
  else (links.take 2).flatMap linkLine ++ "\n    |     ..." ++
    (links.drop (links.length - 1)).flatMap linkLine

/-- What an error says, in the platform's wording. Of a malformed text, a text without a big integer
and a wrong kind the platform says more than these errors know: which character, which text, which
operation. They have one wording each that stands for all of that. -/
def message : PlatformError → Text
  | malformedJson => "The text is not valid JSON"
  | bigIntegerInJson => "Do not know how to serialize a BigInt"
  | circular kind links last =>
    "Converting circular structure to JSON\n    --> starting at object with constructor '" ++
      kind ++ "'" ++ linkLines links ++ "\n    --- " ++ last.text ++ " closes the circle"
  | noText => "Cannot convert object to primitive value"
  | endless => "Maximum call stack size exceeded"
  | bigIntegerInArithmetic => "Cannot mix BigInt and other types, use explicit conversions"
  | noBigInteger => "Cannot convert the text to a BigInt"
  | noHeaders => "Provided initializer must be an object"
  | missingHeader => "Cannot read properties of null (reading 'Symbol(Symbol.iterator)')"
  | noHeaderPair => "Each header pair must be iterable"
  | headerPairLength => "Each header pair must be a name/value tuple"
  | wrongKind => "A value has the wrong kind"
  | invalidUrl => "Invalid URL"
  | illegalHeaderName name => name ++ " is not a legal HTTP header name"
  | illegalHeaderValue value => value ++ " is not a legal HTTP header value"

end PlatformError

/-! ## The three kinds of data -/

/-- The Remote Config error codes that the service is known to send (`RemoteConfigErrorCode`). -/
inductive ErrorCode where
  | internal
  deriving DecidableEq

namespace ErrorCode

/-- All codes. -/
def all : List ErrorCode := [internal]

/-- A code as the service writes it. -/
def text : ErrorCode → Text
  | internal => "INTERNAL"

/-- The code that the service writes so, if it is a known one. -/
def ofText? (t : Text) : Option ErrorCode := all.find? fun code => code.text == t

end ErrorCode

mutual

/-- A value of any kind. -/
inductive Value where
  | undefined
  | null
  | bool (b : Bool)
  | number (x : Double)
  | bigint (n : Int)
  | string (t : Text)
  | array (items : List Value)
  | object (members : List (Text × Value))
  /-- A function that takes so many parameters. A call of it gives `reply`, whatever it is called
  with, or nothing. -/
  | operation (name : Text) (parameters : Nat) (reply : Option Json)
  /-- The container that stands `level` steps out from the innermost one around this value: an
  array, an object or an error of the library, each of which holds itself then. Without so many
  containers around it there is no such value. -/
  | holder (level : Nat)
  | fault (f : Fault)

/-- An error of any class: one that a caller made, one that the platform raised, or one of this
library. -/
inductive Fault where
  | plain (name message stack : Text)
  | platform (e : PlatformError)
  | library (e : LibraryError)

/-- Errors of the library in general (`AdminError`), and those raised for a request to Remote Config
(`RemoteConfigError`), which carry the code that the service reported, undefined if it reported
none. -/
inductive LibraryError.Kind where
  | general
  | request (code : Value)

/-- An error of the library. `exit` is the exit code it suggests, `status` an HTTP status, and
`cause` the error behind it. -/
structure LibraryError where
  kind : LibraryError.Kind
  message : Value
  children : Value
  context : Value
  exit : Value
  cause : Value
  status : Value
  stack : Text

end

/-- Some value. -/
instance : Inhabited Value := ⟨.undefined⟩

namespace Value

mutual

/-- A JSON value as a value. -/
def ofJson : Json → Value
  | .null => .null
  | .bool b => .bool b
  | .number x => .number x
  | .string t => .string t
  | .array items => .array (ofJsonItems items)
  | .object members => .object (ofJsonMembers members)

/-- JSON values as items. -/
def ofJsonItems : List Json → List Value
  | [] => []
  | v :: rest => ofJson v :: ofJsonItems rest

/-- JSON values as members. -/
def ofJsonMembers : List (Text × Json) → List (Text × Value)
  | [] => []
  | (k, v) :: rest => (k, ofJson v) :: ofJsonMembers rest

end

/-- Whether a value counts as true where a condition is asked for. -/
def holds : Value → Bool
  | undefined => false
  | null => false
  | bool b => b
  | number x => !(x == .nan || x.isZero)
  | bigint n => n != 0
  | string t => !t.isEmpty
  | _ => true

/-- Whether a value is the undefined one. -/
def isUndefined : Value → Bool
  | undefined => true
  | _ => false

/-- Undefined or null: a value that stands for none. -/
def isMissing : Value → Bool
  | undefined => true
  | null => true
  | _ => false

/-- Whether a value has fields (`isObject`): arrays and errors do, null does not. -/
def isObject : Value → Bool
  | array _ => true
  | object _ => true
  | fault _ => true
  | _ => false

/-- The text that a value is, if it is one. -/
def string? : Value → Option Text
  | string t => some t
  | _ => none

end Value

/-- A code as the value that an error carries: its text, undefined if there is none. -/
def ErrorCode.reported : Option ErrorCode → Value
  | some code => .string code.text
  | none => .undefined

/-! ### Errors of the library -/

namespace LibraryError

/-- The name of the class of an error. -/
def Kind.name : Kind → Text
  | general => "AdminError"
  | request _ => "RemoteConfigError"

/-- The code that an error carries. -/
def Kind.code : Kind → Value
  | general => .undefined
  | request code => code

/-- The name of an error, which is that of its class. -/
def name (e : LibraryError) : Text := e.kind.name

/-- The code of an error, undefined if it has none. -/
def code (e : LibraryError) : Value := e.kind.code

/-- The error's own data in the order in which it is shown. Fields without a value are undefined.
-/
def members (e : LibraryError) : List (Text × Value) :=
  let shared : List (Text × Value) :=
    [("children", e.children), ("context", e.context), ("exit", e.exit), ("message", e.message),
      ("name", .string e.name), ("original", e.cause), ("status", e.status)]
  match e.kind with
  | .general => shared
  | .request code => shared ++ [(("remoteConfigErrorCode" : Text), code)]

end LibraryError

/-! ### What a value holds -/

namespace Value

mutual

/-- A value with each `holder` in it replaced by what `f` gives for the number of containers around
it and the level that it names. -/
def relink (f : Nat → Nat → Value) (depth : Nat) : Value → Value
  | undefined => undefined
  | null => null
  | bool b => bool b
  | number x => number x
  | bigint n => bigint n
  | string t => string t
  | array items => array (relinkItems f (depth + 1) items)
  | object members => object (relinkMembers f (depth + 1) members)
  | operation name parameters reply => operation name parameters reply
  | holder level => f depth level
  | fault e => fault (relinkFault f (depth + 1) e)

/-- The same for items. -/
def relinkItems (f : Nat → Nat → Value) (depth : Nat) : List Value → List Value
  | [] => []
  | v :: rest => relink f depth v :: relinkItems f depth rest

/-- The same for members. -/
def relinkMembers (f : Nat → Nat → Value) (depth : Nat) :
    List (Text × Value) → List (Text × Value)
  | [] => []
  | (k, v) :: rest => (k, relink f depth v) :: relinkMembers f depth rest

/-- The same for a fault. Only an error of the library holds values. -/
def relinkFault (f : Nat → Nat → Value) (depth : Nat) : Fault → Fault
  | .plain name message stack => .plain name message stack
  | .platform e => .platform e
  | .library ⟨kind, message, children, context, exit, cause, status, stack⟩ =>
    .library ⟨relinkKind f depth kind, relink f depth message, relink f depth children,
      relink f depth context, relink f depth exit, relink f depth cause, relink f depth status,
      stack⟩

/-- The same for the code in a kind. -/
def relinkKind (f : Nat → Nat → Value) (depth : Nat) : LibraryError.Kind → LibraryError.Kind
  | .general => .general
  | .request code => .request (relink f depth code)

end

/-- A value without what would stand for containers around it: there are none. -/
def closed (v : Value) : Value :=
  v.relink (fun depth level => if level < depth then holder level else undefined) 0

/-- A value as it is outside of the container that holds it: what stood for the container is the
container now. -/
def takenFrom (v container : Value) : Value :=
  v.relink (fun depth level => if level = depth then container.closed else holder level) 0

/-- The items of an array. -/
def items : Value → List Value
  | array items => items.map (·.takenFrom (array items))
  | _ => []

/-- The members of a value: those of an object or of an error of the library. The data of other
errors is hidden. -/
def members : Value → List (Text × Value)
  | object members => members.map fun m => (m.1, m.2.takenFrom (object members))
  | fault (.library e) => e.members.map fun m => (m.1, m.2.takenFrom (fault (.library e)))
  | _ => []

/-- The value of a member, undefined if there is none. -/
def member (v : Value) (key : Text) : Value := (Members.get? v.members key).getD undefined

end Value

/-- What an error holds in a field, as it is outside of the error. -/
def LibraryError.held (e : LibraryError) (v : Value) : Value := v.takenFrom (.fault (.library e))

namespace Fault

/-- The name of a fault. -/
def name : Fault → Text
  | plain name _ _ => name
  | platform e => e.name
  | library e => e.name

/-- What a fault says: a text, unless an error of the library was built with something else. -/
def message : Fault → Value
  | plain _ message _ => .string message
  | platform e => .string e.message
  | library e => e.held e.message

/-- The trace recorded where the fault was raised; empty when none was. -/
def stack : Fault → Text
  | plain _ _ stack => stack
  | platform _ => []
  | library e => e.stack

end Fault

namespace Value

/-- The value of a field, undefined if there is none. Beside its members every error has a name, a
message and a stack. -/
def field (v : Value) (key : Text) : Value :=
  match v with
  | fault f =>
    if key = ("name" : Text) then string f.name
    else if key = ("message" : Text) then f.message
    else if key = ("stack" : Text) then string f.stack
    else v.member key
  | _ => v.member key

/-- What a call of the operation under a key gives, if there is one. -/
def reply? (members : List (Text × Value)) (key : Text) : Option (Option Json) :=
  match Members.get? members key with
  | some (.operation _ _ reply) => some reply
  | _ => none

end Value

/-! ## Plain text

The text of a value inside a sentence: numbers in decimal, arrays as their items with commas between
them, objects by a fixed name, errors by their name and message. An object may bring operations that
give its text, and one that brings anything else in their place has none.
-/

/-- Name and message in one line; an empty one of the two is left out with the colon. -/
def headline (name message : Text) : Text :=
  if message = [] then name
  else if name = [] then message
  else name ++ ": " ++ message

namespace Value

/-- The text of what a call gives, unless it is an array or an object. -/
def replyText? : Option Json → Option Text
  | none => some "undefined"
  | some .null => some "null"
  | some (.bool b) => some (if b then "true" else "false")
  | some (.number x) => some x.toText
  | some (.string t) => some t
  | some (.array _) => none
  | some (.object _) => none

/-- The text of an object: what its own operations give, `toString` before `valueOf`, or a fixed
one. -/
def objectText? (members : List (Text × Value)) : Option Text :=
  if Members.has members "toString" then
    ((reply? members "toString").bind replyText?).or ((reply? members "valueOf").bind replyText?)
  else some "[object Object]"

/-- A container whose text is being put together. -/
inductive Frame where
  | list
  | error (name : Text)

/-- The text of a container inside itself, from the containers between the two, the outermost first.
A list inside itself shows nothing. An error shows its message again, up to the first list in it. -/
def shownAgain : List Frame → Except PlatformError Text
  | [] => .error .endless
  | .list :: _ => .ok []
  | .error name :: rest => (shownAgain rest).map (headline name)

mutual

/-- The text of a value inside some containers, the innermost first. -/
def textIn (around : List Frame) : Value → Except PlatformError Text
  | undefined => .ok "undefined"
  | null => .ok "null"
  | bool b => .ok (if b then "true" else "false")
  | number x => .ok x.toText
  | bigint n => .ok (Text.ofInt n)
  | string t => .ok t
  | array items => do return Text.join "," (← itemTexts (.list :: around) items)
  | object members =>
    match objectText? members with
    | some t => .ok t
    | none => .error .noText
  | operation name _ _ => .ok ("function " ++ name ++ "() \x7b [native code] \x7d")
  | holder level => shownAgain (around.take (level + 1)).reverse
  | fault f => faultText around f

/-- The texts of the items of an array. A missing item shows nothing. -/
def itemTexts (around : List Frame) : List Value → Except PlatformError (List Text)
  | [] => .ok []
  | v :: rest => do
    let first ← if v.isMissing then .ok [] else textIn around v
    return first :: (← itemTexts around rest)

/-- The text of a fault. An undefined message says nothing. -/
def faultText (around : List Frame) : Fault → Except PlatformError Text
  | .plain name message _ => .ok (headline name message)
  | .platform e => .ok (headline e.name e.message)
  | .library ⟨kind, message, _, _, _, _, _, _⟩ => do
    let message ←
      if message.isUndefined then .ok [] else textIn (.error kind.name :: around) message
    return headline kind.name message

end

/-- The text of a value, or the error of a value that has none. -/
def text (v : Value) : Except PlatformError Text := v.textIn []

/-- The text of a value that is added to a text. An object that brings an operation for its number
is asked for that first. -/
def addedText (v : Value) : Except PlatformError Text :=
  match v with
  | object members =>
    match (reply? members "valueOf").bind replyText? with
    | some t => .ok t
    | none => (object members).text
  | v => v.text

end Value

/-! ## JSON text

The JSON value that a value denotes. The undefined value and an operation denote none: a member with
it is left out, and in an array it becomes null. An error denotes an object of its own data, which
is empty unless the error is one of this library. An object may bring an operation that gives its
JSON value. A big integer and a value that holds itself cannot be written at all.
-/

namespace Value

/-- The members that have a value. -/
def present (ms : List (Text × Option Json)) : List (Text × Json) :=
  ms.filterMap fun m => m.2.map (m.1, ·)

/-- The error for a container that is met again in a place, with the containers around that, the
innermost first. -/
def writeHolder (around : List Link) (place : Place) (level : Nat) :
    Except PlatformError (Option Json) :=
  match (around.take (level + 1)).reverse with
  | [] => .ok none
  | container :: links => .error (.circular container.kind links place)

mutual

/-- The JSON value denoted in a place inside some containers, if one is. -/
def write (around : List Link) (place : Place) : Value → Except PlatformError (Option Json)
  | undefined => .ok none
  | null => .ok (some .null)
  | bool b => .ok (some (.bool b))
  | number x => .ok (some (.number x))
  | bigint _ => .error .bigIntegerInJson
  | string t => .ok (some (.string t))
  | array items => return some (.array (← writeItems (⟨place, "Array"⟩ :: around) 0 items))
  | object members =>
    match reply? members "toJSON" with
    | some reply => .ok reply
    | none => return some (.object (← writeMembers (⟨place, "Object"⟩ :: around) members))
  | operation _ _ _ => .ok none
  | holder level => writeHolder around place level
  | fault f => return some (.object (← writeFault around place f))

/-- The items of an array from a place on. -/
def writeItems (around : List Link) (place : Nat) : List Value → Except PlatformError (List Json)
  | [] => .ok []
  | v :: rest => do
    let first ← write around (.item place) v
    return first.getD .null :: (← writeItems around (place + 1) rest)

/-- The members of an object. -/
def writeMembers (around : List Link) :
    List (Text × Value) → Except PlatformError (List (Text × Json))
  | [] => .ok []
  | (k, v) :: rest => do
    let first ← write around (.member k) v
    return present [(k, first)] ++ (← writeMembers around rest)

/-- The data of an error, in the order of `LibraryError.members`. -/
def writeFault (around : List Link) (place : Place) :
    Fault → Except PlatformError (List (Text × Json))
  | .plain _ _ _ => .ok []
  | .platform _ => .ok []
  | .library ⟨kind, message, children, context, exit, cause, status, _⟩ => do
    let around := ⟨place, kind.name⟩ :: around
    let children ← write around (.member "children") children
    let context ← write around (.member "context") context
    let exit ← write around (.member "exit") exit
    let message ← write around (.member "message") message
    let cause ← write around (.member "original") cause
    let status ← write around (.member "status") status
    let code ← writeCode around kind
    return present [("children", children), ("context", context), ("exit", exit),
      ("message", message), ("name", some (.string kind.name)), ("original", cause),
      ("status", status), ("remoteConfigErrorCode", code)]

/-- The code of an error of the library, if it has one. -/
def writeCode (around : List Link) : LibraryError.Kind → Except PlatformError (Option Json)
  | .general => .ok none
  | .request code => write around (.member "remoteConfigErrorCode") code

end

/-- The JSON value that a value denotes, if it denotes one. -/
def json? (v : Value) : Except PlatformError (Option Json) := v.write [] (.member [])

/-- The JSON text of a value, none when the value denotes no JSON value. -/
def jsonText? (v : Value) : Except PlatformError (Option Text) := do
  return (← v.json?).map Json.render

end Value

/-! ## Numbers

Where a number is wanted any value counts as one: nothing as zero or `nan`, a text as the number
that it spells, and what has fields as its text does, unless it brings an operation that gives its
number.
-/

namespace Value

/-- The number of what a call gives, unless it is an array or an object. -/
def replyNumber? : Option Json → Option Double
  | none => some .nan
  | some .null => some (.ofNat 0)
  | some (.bool b) => some (.ofNat b.toNat)
  | some (.number x) => some x
  | some (.string t) => some (.ofText t)
  | some (.array _) => none
  | some (.object _) => none

/-- The number that a value counts as for arithmetic, which big integers have no part in. -/
def number? : Value → Except PlatformError Double
  | undefined => .ok .nan
  | null => .ok (.ofNat 0)
  | bool b => .ok (.ofNat b.toNat)
  | number x => .ok x
  | bigint _ => .error .bigIntegerInArithmetic
  | object members =>
    match (reply? members "valueOf").bind replyNumber? with
    | some x => .ok x
    | none => (object members).text.map Double.ofText
  | v => v.text.map Double.ofText

/-- Whether a value counts as `n` or more. Big integers take part in the comparison. -/
def isAtLeast (v : Value) (n : Nat) : Except PlatformError Bool :=
  match v with
  | bigint i => .ok (decide ((n : Int) ≤ i))
  | v => do return Double.le (.ofNat n) (← v.number?)

end Value

end ConfigClient
