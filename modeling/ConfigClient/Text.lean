/-!
# Text

Texts are sequences of 16-bit units, with their digits and numerals below and their bytes above
them: rows of digits to a base, the texts themselves, and reading and writing them in UTF-8.
-/

namespace ConfigClient

/-! ## Digits and separators

* `digit?`, `number?`: the value of a digit, and of a row of digits, to a base up to sixteen.
* `splitAt`: the parts of a list between separators.
-/

/-- The value of a digit below `base`, which is at most sixteen. -/
def digit? (base : Nat) (c : Char) : Option Nat :=
  let value : Option Nat :=
    if c.isDigit then some (c.toNat - 48)
    else if 'a' ≤ c ∧ c ≤ 'f' then some (c.toNat - 87)
    else if 'A' ≤ c ∧ c ≤ 'F' then some (c.toNat - 55)
    else none
  value.filter (· < base)

/-- The number that digits spell; none is zero. -/
def number? (base : Nat) (cs : List Char) : Option Nat :=
  cs.foldlM (fun n c => (digit? base c).map (base * n + ·)) 0

/-- The parts of a list between separators. -/
def splitAt (separator : Char) : List Char → List (List Char)
  | [] => [[]]
  | c :: rest =>
    if c = separator then [] :: splitAt separator rest
    else match splitAt separator rest with
      | [] => [[c]]
      | part :: parts => (c :: part) :: parts

/-! ## Text

Text is a sequence of 16-bit units, as in UTF-16. Units of the surrogate range need not come in
pairs: JSON can spell a lone surrogate, and it has to survive being read and written again.

* `Text.ofString`, `Text.toChars`: between units and characters. A lone surrogate is no character;
  `toChars` shows it as U+FFFD.
* `Text.startsWith`, `Text.contains`, `Text.join`, `Text.lower`, `Text.before`: searching,
  joining, the case of ASCII letters and the order by units.
* `Text.ofNat`, `Text.ofInt`, `Text.numeral`: decimal numerals.
-/

/-- A sequence of UTF-16 units. -/
abbrev Text := List UInt16

namespace Text

/-! ### Units and characters -/

/-- The unit of a character of the basic plane. -/
def unit (c : Char) : UInt16 := c.toNat.toUInt16

/-- One unit for a character below U+10000, a surrogate pair for any other. -/
def ofChar (c : Char) : Text :=
  let n := c.toNat
  if n < 0x10000 then [n.toUInt16]
  else [(0xD800 + (n - 0x10000) / 0x400).toUInt16, (0xDC00 + (n - 0x10000) % 0x400).toUInt16]

/-- The text of a list of characters. -/
def ofChars (cs : List Char) : Text := cs.flatMap ofChar

/-- The text of a string. -/
def ofString (s : String) : Text := ofChars s.toList

/-- A string stands for its text. -/
instance : Coe String Text := ⟨ofString⟩

/-- The first unit of a surrogate pair. -/
def isHigh (u : UInt16) : Bool := 0xD800 ≤ u && u < 0xDC00

/-- The second unit of a surrogate pair. -/
def isLow (u : UInt16) : Bool := 0xDC00 ≤ u && u < 0xE000

/-- The character that stands for what cannot be decoded. -/
def replacement : Char := '\uFFFD'

/-- The character that a surrogate pair stands for. -/
def pair (high low : UInt16) : Char :=
  Char.ofNat (0x10000 + (high.toNat - 0xD800) * 0x400 + (low.toNat - 0xDC00))

/-- The characters of a text, each lone surrogate replaced. -/
def toChars : Text → List Char
  | [] => []
  | [u] => [if isHigh u || isLow u then replacement else Char.ofNat u.toNat]
  | u :: v :: rest =>
    if isHigh u && isLow v then pair u v :: toChars rest
    else (if isHigh u || isLow u then replacement else Char.ofNat u.toNat) :: toChars (v :: rest)

/-- The text with each lone surrogate replaced, as after a passage through UTF-8. -/
def scalar (t : Text) : Text := ofChars t.toChars

/-! ### Searching, joining, order -/

/-- Whether a text begins with another. -/
def startsWith (t start : Text) : Bool := start.isPrefixOf t

/-- Whether a text ends with another. -/
def endsWith (t tail : Text) : Bool := tail.isSuffixOf t

/-- Whether `part` occurs in the text as a run of neighbouring units. -/
def contains (t part : Text) : Bool :=
  part.isPrefixOf t || match t with
    | [] => false
    | _ :: rest => contains rest part

/-- The texts one after another with `separator` between each two. -/
def join (separator : Text) (parts : List Text) : Text := separator.intercalate parts

/-- The order by units: a text stands before its extensions. -/
def before : Text → Text → Bool
  | [], [] => false
  | [], _ :: _ => true
  | _ :: _, [] => false
  | a :: s, b :: t => a < b || (a == b && before s t)

/-- Texts in the order by units; equal texts keep their order. -/
def sort (ts : List Text) : List Text := ts.mergeSort fun a b => !before b a

/-- The ASCII capital letters made small. -/
def lower (t : Text) : Text := t.map fun u => if 65 ≤ u && u ≤ 90 then u + 32 else u

/-! ### Numerals -/

/-- Whether a unit is a decimal digit. -/
def isDigit (u : UInt16) : Bool := 48 ≤ u && u ≤ 57

/-- The number that a run of decimal digits names. -/
def numeral (ds : Text) : Nat := ds.foldl (fun n u => 10 * n + (u.toNat - 48)) 0

/-- The decimal numeral of a number, without leading zeros. -/
def ofNat (n : Nat) : Text := (Nat.toDigits 10 n).map unit

/-- The decimal numeral of a whole number, with its sign. -/
def ofInt : Int → Text
  | .ofNat n => ofNat n
  | .negSucc n => unit '-' :: ofNat (n + 1)

end Text

/-! ## UTF-8

Bytes are decoded without loss of position: each longest part that could have begun a character
but does not complete one is shown as one U+FFFD. A byte order mark is a character like any other.

* `Utf8.Pending`: a character that has begun.
* `Utf8.decode`: the characters of a sequence of bytes.
* `Utf8.encode`: the bytes of a character.
-/

namespace Utf8

/-- A character of which `missing` bytes are still to come, the next one between `low` and `high`.
-/
structure Pending where
  value : Nat
  missing : Nat
  low : Nat
  high : Nat

/-- What a first byte means: a whole character, the beginning of one, or nothing. -/
inductive Start where
  | whole (c : Char)
  | begun (p : Pending)
  | malformed

/-- The first byte of a character. The range of the second byte excludes overlong forms,
surrogates and what lies above U+10FFFF. -/
def start (b : Nat) : Start :=
  if b < 0x80 then .whole (Char.ofNat b)
  else if b < 0xC2 then .malformed
  else if b < 0xE0 then .begun ⟨b - 0xC0, 1, 0x80, 0xBF⟩
  else if b < 0xF0 then
    .begun ⟨b - 0xE0, 2, if b = 0xE0 then 0xA0 else 0x80, if b = 0xED then 0x9F else 0xBF⟩
  else if b < 0xF5 then
    .begun ⟨b - 0xF0, 3, if b = 0xF0 then 0x90 else 0x80, if b = 0xF4 then 0x8F else 0xBF⟩
  else .malformed

/-- A byte where a character may begin. -/
def first (b : Nat) : List Char × Option Pending :=
  match start b with
  | .whole c => ([c], none)
  | .begun p => ([], some p)
  | .malformed => ([Text.replacement], none)

/-- The characters that a byte completes, and the character that has begun after it. -/
def step (pending : Option Pending) (b : Nat) : List Char × Option Pending :=
  match pending with
  | none => first b
  | some p =>
    if p.low ≤ b ∧ b ≤ p.high then
      let value := p.value * 64 + (b - 0x80)
      if p.missing ≤ 1 then ([Char.ofNat value], none)
      else ([], some ⟨value, p.missing - 1, 0x80, 0xBF⟩)
    else
      let (done, pending) := first b
      (Text.replacement :: done, pending)

/-- The characters of bytes that go on after a character that has begun. -/
def decodeFrom (pending : Option Pending) : List UInt8 → List Char
  | [] => (pending.map fun _ => Text.replacement).toList
  | b :: rest =>
    let (done, pending) := step pending b.toNat
    done ++ decodeFrom pending rest

/-- The characters of bytes. -/
def decode (bytes : List UInt8) : List Char := decodeFrom none bytes

/-- The bytes of a character. -/
def encode (c : Char) : List UInt8 :=
  let n := c.toNat
  if n < 0x80 then [n.toUInt8]
  else if n < 0x800 then [(0xC0 + n / 64).toUInt8, (0x80 + n % 64).toUInt8]
  else if n < 0x10000 then
    [(0xE0 + n / 4096).toUInt8, (0x80 + n / 64 % 64).toUInt8, (0x80 + n % 64).toUInt8]
  else
    [(0xF0 + n / 262144).toUInt8, (0x80 + n / 4096 % 64).toUInt8, (0x80 + n / 64 % 64).toUInt8,
      (0x80 + n % 64).toUInt8]

end Utf8

/-- The text that bytes in UTF-8 spell. -/
def Text.ofUtf8 (bytes : List UInt8) : Text := ofChars (Utf8.decode bytes)

end ConfigClient
