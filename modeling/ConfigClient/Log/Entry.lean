import ConfigClient.Text
import ConfigClient.Value

/-!
# Log entries

Levels, the pieces of which a line is made, and the entry that a call of the logger becomes.
-/

namespace ConfigClient

/-! ## Log levels

Levels from the most to the least urgent. A sink that writes a level writes all more urgent ones
too.
-/

namespace Log

/-- The urgency of what is logged (`LogLevel`). -/
inductive Level where
  | error
  | warn
  | info
  | http
  | verbose
  | debug
  | silly
  deriving DecidableEq

namespace Level

/-- All levels, the most urgent first. -/
def all : List Level := [error, warn, info, http, verbose, debug, silly]

/-- The name of a level, which is that of a method of the logger. -/
def name : Level → Text
  | error => "error"
  | warn => "warn"
  | info => "info"
  | http => "http"
  | verbose => "verbose"
  | debug => "debug"
  | silly => "silly"

/-- The level with a name. -/
def ofName? (t : Text) : Option Level := all.find? fun l => l.name == t

/-- The place in the order, the most urgent level first. -/
def rank : Level → Nat
  | error => 0
  | warn => 1
  | info => 2
  | http => 3
  | verbose => 4
  | debug => 5
  | silly => 6

/-- Whether a sink of level `limit` writes what is logged at a level. -/
def isWithin (l limit : Level) : Bool := l.rank ≤ limit.rank

end Level

/-- A message for debugging with the time at which it was logged (`annotateDebugLines`). -/
def stamped (clock message : Text) : Text := "[" ++ clock ++ "] " ++ message

end Log

/-! ## Segments of a log line

What is logged is shown piece by piece. A text shows itself and any other value its JSON text; a
value that cannot be written as JSON shows its plain text.
-/

namespace Log

/-- The text that a value contributes, none for an undefined one (`tryStringify`). -/
def segment? (v : Value) : Except PlatformError (Option Text) :=
  match v with
  | .string t => .ok (some t)
  | v =>
    match v.jsonText? with
    | .ok t => .ok t
    | .error _ => v.text.map some

end Log

/-! ## Log entries

A call of the logger becomes an entry: a level, a message, and further values that are shown after
it.

* `Entry.ofLog`: a call with the level as first argument.
* `Entry.ofLevel`: a call of the method of a level.
* `Entry.ofCall`: a call by the name of the method.
-/

namespace Log

/-- What the sinks are handed for one call of the logger. -/
structure Entry where
  /-- What has been given as the level. -/
  level : Value
  message : Value
  /-- What is shown after the message. -/
  rest : List Value := []
  /-- Marked as an uncaught exception, which no sink writes. -/
  exception : Bool := false

namespace Entry

/-- Whether a value marks an entry as an uncaught exception. -/
def isMarked (v : Value) : Bool :=
  match v.member "exception" with
  | .bool b => b
  | _ => false

/-- A value with fields as the entry itself. Of an error only what it does not hide counts. -/
def ofObject (level v : Value) : Entry where
  level
  message := v.member "message"
  exception := isMarked v

/-- An error as a message: its stack, or what it says if it has none (`expandErrors`). -/
def expand (message : Value) : Value :=
  match message with
  | .fault f => if f.stack = [] then f.message else .string f.stack
  | v => v

/-- The letters that form a placeholder together with a percent sign. -/
def placeholderUnits : Text := "scdjifoO%"

/-- Whether a text holds a placeholder. -/
def hasPlaceholder : Text → Bool
  | u :: v :: rest =>
    (u == Text.unit '%' && decide (v ∈ placeholderUnits)) || hasPlaceholder (v :: rest)
  | _ => false

/-- Whether a message is a template. One that is no text is asked itself, if it brings a search of
its own. -/
def isTemplate (message : Value) : Except PlatformError Bool :=
  match message with
  | .string t => .ok (hasPlaceholder t)
  | v =>
    match v.member "match" with
    | .operation _ _ reply => .ok ((reply.map Value.ofJson).getD .undefined).holds
    | search => if search.holds then .error .wrongKind else .ok false

/-- A message with further values. If the first of them has fields and the message is no template,
its marks count for the entry and its own message is added to the message. -/
def ofMany (level message first : Value) (rest : List Value) : Except PlatformError Entry := do
  if first.isObject && !(← isTemplate message) then
    let added := first.field "message"
    let message ← if added.holds then do
        pure (.string ((← message.text) ++ " " ++ (← added.text)))
      else pure message
    return { level, message, rest := first :: rest, exception := isMarked first }
  else return { level, message, rest := first :: rest }

/-- A message alone. One with fields is the entry itself. -/
def ofOne (level message : Value) : Entry :=
  if message.isObject then ofObject level message else { level, message }

/-- A call with the level as first argument. -/
def ofLog (args : List Value) : Except PlatformError Entry :=
  let level := args.head?.getD .undefined
  let message := expand (args.tail.head?.getD .undefined)
  match args.drop 2 with
  | [] => .ok (ofOne level message)
  | first :: rest => ofMany level message first rest

/-- A call of the method of a level. A single argument is the entry itself if it has a message,
and is not expanded if it is an error. -/
def ofLevel (level : Level) (args : List Value) : Except PlatformError Entry :=
  let level : Value := .string level.name
  match args with
  | [] => .ok { level, message := .string [] }
  | [v] =>
    .ok (if v.isObject && (v.field "message").holds then ofObject level v
      else { level, message := v })
  | args => ofLog (level :: args)

/-- A text as the first argument of a message for debugging is stamped with the time. -/
def stampFirst (clock : Text) (args : List Value) : List Value :=
  match args with
  | [] => [.undefined]
  | .string t :: rest => .string (stamped clock t) :: rest
  | args => args

/-- A call by the name of the method. -/
def ofCall (clock method : Text) (args : List Value) : Except PlatformError Entry :=
  if method = ("log" : Text) then ofLog args
  else match Level.ofName? method with
    | some .debug => ofLevel .debug (stampFirst clock args)
    | some level => ofLevel level args
    | none => .error .wrongKind

/-- The level, none if what has been given is that of no level. Whatever has the text of a level's
name names that level. -/
def level? (e : Entry) : Except PlatformError (Option Level) := e.level.text.map Level.ofName?

end Entry

end Log

end ConfigClient
