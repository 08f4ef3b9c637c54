import ConfigClient.Double
import ConfigClient.Text

/-!
# JSON

JSON values, and reading and writing their texts. A text is read token by token by a machine that
holds what is open; a value is written directly.
-/

namespace ConfigClient

/-! ## Members of an object

An object is a list of members with distinct keys in a fixed order: keys that are array indices
first, by value, then all others as they were first written.

* `arrayIndex?`: the index that a key spells.
* `Members.get?`, `Members.insert`: a member's value is replaced where it stands, and a new member
  takes the place that its key has in the order.
* `Members.ofList`: members in writing order; of equal keys the last value counts.
-/

/-- The index spelled by a key: the numeral of a number below `2³² - 1`, without leading zeros. -/
def arrayIndex? (key : Text) : Option Nat :=
  if key.length ≤ 10 ∧ Text.ofNat key.numeral = key ∧ key.numeral < 4294967295 then
    some key.numeral
  else none

/-- The members of an object in their order. -/
abbrev Members (α : Type) := List (Text × α)

namespace Members

variable {α : Type}

/-- The value of a key. -/
def get? (ms : Members α) (key : Text) : Option α := ms.lookup key

/-- Whether there is a member with a key. -/
def has (ms : Members α) (key : Text) : Bool := ms.any (·.1 == key)

/-- Whether a new member `key` stands before an old member `other`. -/
def standsBefore (key other : Text) : Bool :=
  match arrayIndex? key, arrayIndex? other with
  | some i, some j => i < j
  | some _, none => true
  | none, _ => false

/-- A member whose key is new, at its place in the order. -/
def place (key : Text) (value : α) : Members α → Members α
  | [] => [(key, value)]
  | m :: rest =>
    if standsBefore key m.1 then (key, value) :: m :: rest else m :: place key value rest

/-- Members with a value for a key, which replaces the old value or is a new member. -/
def insert (ms : Members α) (key : Text) (value : α) : Members α :=
  if ms.has key then ms.map fun m => if m.1 == key then (key, value) else m
  else place key value ms

/-- The members of an object from those written in its text. -/
def ofList (written : List (Text × α)) : Members α :=
  written.foldl (fun ms m => ms.insert m.1 m.2) []

end Members

/-! ## JSON values

The values that a JSON text denotes. Numbers are doubles and strings are texts, so both may hold
what has no text of its own: an infinite number is read from `1e999`, a lone surrogate from an
escape.
-/

/-- A JSON value. -/
inductive Json where
  | null
  | bool (b : Bool)
  | number (x : Double)
  | string (t : Text)
  | array (items : List Json)
  | object (members : List (Text × Json))

/-- Some JSON value. -/
instance : Inhabited Json := ⟨.null⟩

namespace Json

/-- The value of a key, when the value is an object that has it. -/
def field? : Json → Text → Option Json
  | .object members, key => Members.get? members key
  | _, _ => none

end Json

/-! ## Numbers in JSON

A number is written as a sign, whole digits without leading zeros, and if wanted a fraction and an
exponent. `Json.numeral?` takes such a numeral apart.
-/

namespace Json

open Numeral

/-- The parts of a number in JSON. -/
def numeral? (t : Text) : Option Numeral := do
  let negative := t.head? = some (Text.unit '-')
  let (whole, rest) := spanDigits (if negative then t.tail else t)
  if whole = [] ∨ (1 < whole.length ∧ whole.head? = some (Text.unit '0')) then none
  else if rest.head? = some (Text.unit '.') then
    let (fraction, rest) := spanDigits rest.tail
    if fraction = [] then none
    else return ⟨negative, whole, fraction, ← ending? rest⟩
  else return ⟨negative, whole, [], ← ending? rest⟩

end Json

/-! ## Tokens of JSON

A JSON text is read as a list of tokens: six marks of punctuation, quoted strings with their
escapes resolved, and words. A word is a longest run of units that are neither blank nor
punctuation nor a quote; which words mean something is decided later.

* `Token.Mode`: where the reader stands inside a token.
* `Token.scan`: the tokens of a text, none when a string is malformed or has no end.
-/

namespace Json

/-- A piece of a JSON text. -/
inductive Token where
  | arrayOpen
  | arrayClose
  | objectOpen
  | objectClose
  | comma
  | colon
  | string (t : Text)
  | word (t : Text)
  deriving DecidableEq

namespace Token

/-- The four blank characters of JSON. -/
def isBlank (u : UInt16) : Bool := u == 0x20 || u == 0x09 || u == 0x0A || u == 0x0D

/-- The token that a mark of punctuation is. -/
def punctuation? (u : UInt16) : Option Token :=
  if u = Text.unit '[' then some arrayOpen
  else if u = Text.unit ']' then some arrayClose
  else if u = Text.unit '\x7b' then some objectOpen
  else if u = Text.unit '\x7d' then some objectClose
  else if u = Text.unit ',' then some comma
  else if u = Text.unit ':' then some colon
  else none

/-- What an escape of one letter stands for. -/
def escape? (u : UInt16) : Option UInt16 :=
  if u = Text.unit '"' ∨ u = Text.unit '\\' ∨ u = Text.unit '/' then some u
  else if u = Text.unit 'b' then some 0x08
  else if u = Text.unit 'f' then some 0x0C
  else if u = Text.unit 'n' then some 0x0A
  else if u = Text.unit 'r' then some 0x0D
  else if u = Text.unit 't' then some 0x09
  else none

/-- The value of a hexadecimal digit of either case. -/
def hexValue? (u : UInt16) : Option Nat :=
  if Text.isDigit u then some (u.toNat - 48)
  else if Text.unit 'a' ≤ u ∧ u ≤ Text.unit 'f' then some (u.toNat - 87)
  else if Text.unit 'A' ≤ u ∧ u ≤ Text.unit 'F' then some (u.toNat - 55)
  else none

/-- Where the reader stands. Units read so far are kept newest first. -/
inductive Mode where
  | between
  | word (done : Text)
  | quoted (done : Text)
  | escaped (done : Text)
  /-- Inside a four-digit escape of which `missing` digits are still to come. -/
  | hex (missing value : Nat) (done : Text)

namespace Mode

/-- The tokens that one unit completes outside of strings, and the mode after it. -/
def stepOutside (word : Option Text) (u : UInt16) : List Token × Mode :=
  let before : List Token := (word.map fun w => Token.word w.reverse).toList
  if isBlank u then (before, between)
  else if u = Text.unit '"' then (before, quoted [])
  else match punctuation? u with
    | some mark => (before ++ [mark], between)
    | none => ([], .word (u :: word.getD []))

/-- The tokens that one unit completes, and the mode after it. Control characters have to be
escaped in a string. -/
def step : Mode → UInt16 → Option (List Token × Mode)
  | between, u => some (stepOutside none u)
  | word done, u => some (stepOutside (some done) u)
  | quoted done, u =>
    if u < 0x20 then none
    else if u = Text.unit '"' then some ([.string done.reverse], between)
    else if u = Text.unit '\\' then some ([], escaped done)
    else some ([], quoted (u :: done))
  | escaped done, u =>
    if u = Text.unit 'u' then some ([], hex 4 0 done)
    else (escape? u).map fun v => ([], quoted (v :: done))
  | hex missing value done, u =>
    (hexValue? u).map fun d =>
      let value := 16 * value + d
      ([], if missing ≤ 1 then quoted (value.toUInt16 :: done) else hex (missing - 1) value done)

/-- The tokens that the end of the text completes. -/
def finish : Mode → Option (List Token)
  | between => some []
  | word done => some [.word done.reverse]
  | _ => none

end Mode

/-- The tokens of a text that is entered in the given mode. -/
def scanFrom (mode : Mode) : Text → Option (List Token)
  | [] => mode.finish
  | u :: rest => do
    let (done, mode) ← mode.step u
    return done ++ (← scanFrom mode rest)

/-- The tokens of a text. -/
def scan (t : Text) : Option (List Token) := scanFrom .between t

end Token

end Json

/-! ## Reading JSON

Tokens are read one at a time by a machine whose state is what it awaits next and the arrays and
objects that are still open around it.

* `Json.ofWord?`: the value of a word: a literal name or a number.
* `Json.Reader.step`: one token.
* `Json.parse?`: the value of a text, none unless the whole text is one JSON value.
-/

namespace Json

/-- The value that a word stands for. -/
def ofWord? (w : Text) : Option Json :=
  if w = ("null" : Text) then some null
  else if w = ("true" : Text) then some (bool true)
  else if w = ("false" : Text) then some (bool false)
  else (numeral? w).map fun n => number n.value

/-- An open array with its items so far, newest first, or an open object with its members so far
and the key whose value is awaited. -/
inductive Frame where
  | array (items : List Json)
  | object (members : Members Json) (key : Text)

/-- What the reader awaits. -/
inductive Reader where
  | value (stack : List Frame)
  | firstItem (stack : List Frame)
  | afterItem (items : List Json) (stack : List Frame)
  | firstKey (stack : List Frame)
  | key (members : Members Json) (stack : List Frame)
  | colon (members : Members Json) (key : Text) (stack : List Frame)
  | afterMember (members : Members Json) (stack : List Frame)
  | finished (result : Json)

namespace Reader

/-- A complete value, put into the innermost open array or object. -/
def supply (v : Json) : List Frame → Reader
  | [] => finished v
  | .array items :: stack => afterItem (v :: items) stack
  | .object members k :: stack => afterMember (members.insert k v) stack

/-- The first token of a value. -/
def begin (stack : List Frame) : Token → Option Reader
  | .arrayOpen => some (firstItem stack)
  | .objectOpen => some (firstKey stack)
  | .string t => some (supply (.string t) stack)
  | .word w => (ofWord? w).map fun v => supply v stack
  | _ => none

/-- One token. -/
def step : Reader → Token → Option Reader
  | value stack, t => begin stack t
  | firstItem stack, .arrayClose => some (supply (.array []) stack)
  | firstItem stack, t => begin (.array [] :: stack) t
  | afterItem items stack, .comma => some (value (.array items :: stack))
  | afterItem items stack, .arrayClose => some (supply (.array items.reverse) stack)
  | firstKey stack, .objectClose => some (supply (.object []) stack)
  | firstKey stack, .string k => some (colon [] k stack)
  | key members stack, .string k => some (colon members k stack)
  | colon members k stack, .colon => some (value (.object members k :: stack))
  | afterMember members stack, .comma => some (key members stack)
  | afterMember members stack, .objectClose => some (supply (.object members) stack)
  | _, _ => none

/-- The value read, once nothing more is awaited. -/
def result? : Reader → Option Json
  | finished v => some v
  | _ => none

end Reader

/-- The value that tokens spell. -/
def ofTokens? (ts : List Token) : Option Json := do
  (← ts.foldlM Reader.step (.value [])).result?

/-- The value of a JSON text (`JSON.parse`). -/
def parse? (t : Text) : Option Json := do ofTokens? (← Token.scan t)

end Json

/-! ## Writing JSON

`Json.render` writes a value without blanks. A string keeps every unit as it is except quotes,
backslashes, control characters and lone surrogates, which are escaped; a number that is not
finite is written `null`.
-/

namespace Json

/-- A hexadecimal digit in small letters. -/
def hexUnit (d : Nat) : UInt16 := if d < 10 then (48 + d).toUInt16 else (87 + d).toUInt16

/-- A unit as a four-digit escape in small letters. -/
def hexEscape (u : UInt16) : Text :=
  let n := u.toNat
  [Text.unit '\\', Text.unit 'u', hexUnit (n / 4096), hexUnit (n / 256 % 16),
    hexUnit (n / 16 % 16), hexUnit (n % 16)]

/-- A unit that is no surrogate, as it stands in a string. -/
def quoteUnit (u : UInt16) : Text :=
  if u = Text.unit '"' then "\\\""
  else if u = Text.unit '\\' then "\\\\"
  else if u = 0x08 then "\\b"
  else if u = 0x0C then "\\f"
  else if u = 0x0A then "\\n"
  else if u = 0x0D then "\\r"
  else if u = 0x09 then "\\t"
  else if u < 0x20 then hexEscape u
  else [u]

/-- The inside of a string: surrogate pairs are kept, lone surrogates escaped. -/
def quoteUnits : Text → Text
  | [] => []
  | [u] => if Text.isHigh u || Text.isLow u then hexEscape u else quoteUnit u
  | u :: v :: rest =>
    if Text.isHigh u && Text.isLow v then u :: v :: quoteUnits rest
    else (if Text.isHigh u || Text.isLow u then hexEscape u else quoteUnit u) ++
      quoteUnits (v :: rest)

/-- A string with its quotes. -/
def quote (t : Text) : Text := Text.unit '"' :: quoteUnits t ++ [Text.unit '"']

/-- The text of a number. -/
def renderNumber (x : Double) : Text := if x.isFinite then x.toText else "null"

mutual

/-- The text of a value. -/
def render : Json → Text
  | null => "null"
  | bool true => "true"
  | bool false => "false"
  | number x => renderNumber x
  | string t => quote t
  | array items => Text.unit '[' :: renderItems items ++ [Text.unit ']']
  | object members => Text.unit '\x7b' :: renderMembers members ++ [Text.unit '\x7d']

/-- The items of an array with commas between them. -/
def renderItems : List Json → Text
  | [] => []
  | [v] => render v
  | v :: w :: rest => render v ++ Text.unit ',' :: renderItems (w :: rest)

/-- The members of an object with commas between them. -/
def renderMembers : List (Text × Json) → Text
  | [] => []
  | [(k, v)] => quote k ++ Text.unit ':' :: render v
  | (k, v) :: m :: rest =>
    quote k ++ Text.unit ':' :: render v ++ Text.unit ',' :: renderMembers (m :: rest)

end

end Json

end ConfigClient
