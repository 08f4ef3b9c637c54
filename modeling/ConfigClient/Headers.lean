import ConfigClient.Value

/-!
# HTTP headers

Headers are kept by lower-case name, each name once with its values in the order of their arrival.

* `Headers.append`, `Headers.set`: another value for a name, or the only one.
* `Headers.get?`: the values of a name, joined with a comma and a blank.
* `Headers.ofValue`: headers given as an object or as a list of pairs.
* `Headers.toList`: names in order with their joined values.
-/

namespace ConfigClient

/-- The values of each lower-case name. -/
abbrev Headers := List (Text × List Text)

namespace Headers

/-! ## Legal names and values -/

/-- The marks that a name may hold beside letters and digits. -/
def nameMarks : Text := "^_`-!#$%&'*+.|~"

/-- Whether a unit may stand in a name. -/
def isNameUnit (u : UInt16) : Bool :=
  Text.isDigit u || (65 ≤ u && u ≤ 90) || (97 ≤ u && u ≤ 122) ||
    decide (u ∈ nameMarks)

/-- Whether a text is a name: it has to hold something. -/
def isLegalName (name : Text) : Bool := name != [] && name.all isNameUnit

/-- Whether a unit may stand in a value: no control character but the tab. -/
def isValueUnit (u : UInt16) : Bool :=
  u == 0x09 || (0x20 ≤ u && u ≤ 0x7E) || (0x80 ≤ u && u ≤ 0xFF)

/-- Whether a text is a value, which may be empty. -/
def isLegalValue (value : Text) : Bool := value.all isValueUnit

/-- A name and a value that are both legal; the name is looked at first. -/
def check (name value : Text) : Except PlatformError Unit :=
  if !isLegalName name then .error (.illegalHeaderName name)
  else if !isLegalValue value then .error (.illegalHeaderValue value)
  else .ok ()

/-! ## Operations -/

/-- The values of a name, given in any case. -/
def values? (h : Headers) (name : Text) : Option (List Text) := h.lookup name.lower

/-- Whether a name has values. -/
def has (h : Headers) (name : Text) : Bool := (h.values? name).isSome

/-- The values of a name, joined. -/
def get? (h : Headers) (name : Text) : Option Text := (h.values? name).map (Text.join ", ")

/-- The headers with the values of a lower-case name changed. -/
def update (key : Text) (f : List Text → List Text) : Headers → Headers
  | [] => [(key, f [])]
  | entry :: rest =>
    if entry.1 = key then (key, f entry.2) :: rest else entry :: update key f rest

/-- The headers with one more value for a name. -/
def append (h : Headers) (name value : Text) : Headers := h.update name.lower (· ++ [value])

/-- The headers with only one value for a name. -/
def set (h : Headers) (name value : Text) : Headers := h.update name.lower fun _ => [value]

/-- One more value after a check. -/
def append? (h : Headers) (name value : Text) : Except PlatformError Headers := do
  check name value
  return h.append name value

/-- The only value of a name after a check. -/
def set? (h : Headers) (name value : Text) : Except PlatformError Headers := do
  check name value
  return h.set name value

/-- Headers with more values, up to the first that fails its check. -/
def appendAll? (h : Headers) (pairs : List (Text × Text)) : Except PlatformError Headers :=
  pairs.foldlM (fun h m => h.append? m.1 m.2) h

/-- Names in order with their joined values. -/
def toList (h : Headers) : List (Text × Text) :=
  (h.map fun entry => (entry.1, Text.join ", " entry.2)).mergeSort fun a b => !Text.before b.1 a.1

/-! ## Headers given as values -/

/-- One more value where both parts are values, taken as texts. -/
def appendValue? (h : Headers) (name value : Value) : Except PlatformError Headers := do
  let name ← name.text
  let value ← value.text
  h.append? name value

/-- One more value for a pair of a name and a value. -/
def appendPair? (h : Headers) : List Value → Except PlatformError Headers
  | [name, value] => h.appendValue? name value
  | _ => .error .headerPairLength

/-- The items of a pair. -/
def pair? : Value → Except PlatformError (List Value)
  | .array items => .ok (Value.array items).items
  | .null => .error .missingHeader
  | _ => .error .noHeaderPair

/-- Headers given as nothing, as an object, or as a list of pairs. That each pair is a list is
checked before any of them is looked at. -/
def ofValue : Value → Except PlatformError Headers
  | .undefined => .ok []
  | .null => .ok []
  | .array items => do
    let pairs ← (Value.array items).items.mapM pair?
    pairs.foldlM appendPair? []
  | .object members =>
    (Value.object members).members.foldlM (fun h m => h.appendValue? (.string m.1) m.2) []
  | .fault f => (Value.fault f).members.foldlM (fun h m => h.appendValue? (.string m.1) m.2) []
  | _ => .error .noHeaders

end Headers

end ConfigClient
