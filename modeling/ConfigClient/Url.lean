import ConfigClient.Text
import ConfigClient.Url.Domain

/-!
# URLs

The addresses and the hosts of URLs, and the URLs themselves.
-/

namespace ConfigClient

/-! ## Numeric addresses

Hosts that are addresses instead of names.

* `Ipv4.isValid`: up to four numbers with dots between them, decimal, octal or hexadecimal, of
  which the last may fill the places of those left out.
* `Ipv6.isValid`: eight groups of hexadecimal digits, one run of which may be left out, the last
  two possibly written as four decimal numbers.
-/

namespace Url

namespace Ipv4

/-- A number in one of three notations. A leading `0x` announces hexadecimal digits, which may be
missing, and any other leading zero octal ones. -/
def part? : List Char → Option Nat
  | [] => none
  | '0' :: 'x' :: rest => number? 16 rest
  | '0' :: 'X' :: rest => number? 16 rest
  | '0' :: c :: rest => number? 8 (c :: rest)
  | cs => number? 10 cs

/-- The parts of a host; a dot at the end adds none. -/
def parts (host : List Char) : List (List Char) :=
  let all := splitAt '.' host
  if 1 < all.length ∧ all.getLast? = some [] then all.dropLast else all

/-- Whether a host is meant as an address: its last part is a number. -/
def isMeant (host : List Char) : Bool :=
  match (parts host).getLast? with
  | none => false
  | some last => (last != [] && last.all Char.isDigit) || (part? last).isSome

/-- Whether what is meant as an address is one: at most four numbers that together fit in 32 bits.
-/
def isValid (host : List Char) : Bool :=
  let all := parts host
  match all.mapM part? with
  | none => false
  | some numbers =>
    numbers.length ≤ 4 && numbers.dropLast.all (· ≤ 255) &&
      numbers.getLast?.all (· < Nat.pow 256 (5 - numbers.length))

end Ipv4

namespace Ipv6

/-- One to four hexadecimal digits. -/
def isGroup (cs : List Char) : Bool :=
  cs != [] && cs.length ≤ 4 && cs.all fun c => (digit? 16 c).isSome

/-- A decimal number up to 255 without a leading zero. -/
def isOctet (cs : List Char) : Bool :=
  cs != [] && cs.length ≤ 3 && (cs.length = 1 || cs.head? != some '0') &&
    (number? 10 cs).any (· ≤ 255)

/-- Whether the end of an address is written as four decimal numbers. -/
def isQuad (cs : List Char) : Bool :=
  let octets := splitAt '.' cs
  octets.length == 4 && octets.all isOctet

/-- The number of groups in a part of an address. The last two may be written as four decimal
numbers if the part stands at the end. -/
def groups? (atEnd : Bool) (cs : List Char) : Option Nat :=
  if cs = [] then some 0
  else
    let all := splitAt ':' cs
    if all.all isGroup then some all.length
    else if atEnd && all.dropLast.all isGroup && all.getLast?.any isQuad then some (all.length + 1)
    else none

/-- What stands before and after the first double colon. -/
def splitGap : List Char → Option (List Char × List Char)
  | [] => none
  | ':' :: ':' :: rest => some ([], rest)
  | c :: rest => (splitGap rest).map fun (before, after) => (c :: before, after)

/-- Whether the text between the brackets is an address. -/
def isValid (cs : List Char) : Bool :=
  match splitGap cs with
  | none => groups? true cs == some 8
  | some (before, after) =>
    match groups? false before, groups? true after with
    | some m, some n => m + n ≤ 7
    | _, _ => false

end Ipv6

end Url

/-! ## Hosts

The host of a URL is an IPv6 address in brackets, a name or an IPv4 address, or, for a scheme that
is not one of the special ones, any text without the characters that end a host.

* `Host.isValid`: whether a text can be a host.
* `Host.domain?`: a name in the form in which it is looked up, none if it is no name.
-/

namespace Url

namespace Host

/-- The characters that no host may hold. -/
def isForbidden (c : Char) : Bool :=
  c == '\x00' || c == '\t' || c == '\n' || c == '\r' || c == ' ' || c == '#' || c == '/' ||
    c == ':' || c == '<' || c == '>' || c == '?' || c == '@' || c == '[' || c == '\\' ||
    c == ']' || c == '^' || c == '|'

/-- The characters that no name may hold. -/
def isForbiddenInName (c : Char) : Bool :=
  isForbidden c || c.toNat < 0x20 || c == '%' || c == '\x7f'

/-! ### Names -/

/-- The bytes of a text in which `%` and two hexadecimal digits stand for one byte. -/
def percentDecode : List Char → List UInt8
  | [] => []
  | '%' :: a :: b :: rest =>
    match digit? 16 a, digit? 16 b with
    | some x, some y => (16 * x + y).toUInt8 :: percentDecode rest
    | _, _ => Utf8.encode '%' ++ percentDecode (a :: b :: rest)
  | c :: rest => Utf8.encode c ++ percentDecode rest

/-- The name that a text stands for. -/
def domain? (cs : List Char) : Option (List Char) :=
  (Domain.name? (Utf8.decode (percentDecode cs))).filter fun name =>
    !name.any isForbiddenInName

/-! ### Hosts -/

/-- Whether a text is a host, for a special scheme or for another. -/
def isValid (special : Bool) : List Char → Bool
  | '[' :: rest => rest.getLast? == some ']' && Ipv6.isValid rest.dropLast
  | cs =>
    if special then
      match domain? cs with
      | none => false
      | some name => !Ipv4.isMeant name || Ipv4.isValid name
    else !cs.any isForbidden

end Host

end Url

/-! ## URLs

Of a URL only its scheme is of interest here, and whether it is one at all. A text is read without
the control characters and blanks around it and without tabs and line breaks anywhere.

* `Url.scheme?`: the scheme of a URL, none for a text that is no URL.
-/

namespace Url

/-! ### Cleaning -/

/-- The characters that do not count at both ends of a URL. -/
def isTrimmed (c : Char) : Bool := c.toNat ≤ 0x20

/-- The characters that count nowhere in a URL. -/
def isDropped (c : Char) : Bool := c == '\t' || c == '\n' || c == '\r'

/-- The characters of a text that count. -/
def clean (t : Text) : List Char :=
  let inner := ((t.toChars.dropWhile isTrimmed).reverse.dropWhile isTrimmed).reverse
  inner.filter (!isDropped ·)

/-! ### Schemes -/

/-- The characters of a scheme. -/
def isSchemeChar (c : Char) : Bool := c.isAlphanum || c == '+' || c == '-' || c == '.'

/-- The scheme before the first colon in small letters, and what follows the colon. -/
def splitScheme (cs : List Char) : Option (List Char × List Char) :=
  let scheme := cs.takeWhile isSchemeChar
  match scheme, cs.drop scheme.length with
  | c :: _, ':' :: rest => if c.isAlpha then some (scheme.map Char.toLower, rest) else none
  | _, _ => none

/-- The schemes whose URLs always name a host. -/
def specialSchemes : List (List Char) :=
  ["http".toList, "https".toList, "ws".toList, "wss".toList, "ftp".toList]

/-! ### Authorities -/

/-- Slashes of both kinds. -/
def isSlash (c : Char) : Bool := c == '/' || c == '\\'

/-- Whether a character ends the authority. A backslash does only after a special scheme. -/
def endsAuthority (special : Bool) (c : Char) : Bool :=
  c == '/' || c == '?' || c == '#' || (special && c == '\\')

/-- What follows the last `@`, and whether there is one. -/
def afterCredentials (cs : List Char) : List Char × Bool :=
  ((cs.reverse.takeWhile (· != '@')).reverse, cs.contains '@')

/-- Whether a place after a character is inside brackets, given whether that before it is. -/
def bracketed (c : Char) (before : Bool) : Bool :=
  if c = '[' then true else if c = ']' then false else before

/-- The host before the first colon that is not inside brackets, and what follows the colon. -/
def splitHost (inBrackets : Bool) : List Char → List Char × Option (List Char)
  | [] => ([], none)
  | c :: rest =>
    if c = ':' ∧ !inBrackets then ([], some rest)
    else
      let (host, number) := splitHost (bracketed c inBrackets) rest
      (c :: host, number)

/-- Whether what follows a host and a colon is a number that fits in sixteen bits. No digits at all
stand for the number that the scheme implies. -/
def isHostNumber (cs : List Char) : Bool := (number? 10 cs).any (· ≤ 65535)

/-- Whether what stands between the slashes and the path names a host. Only after a scheme that asks
for none it may be left out. -/
def isAuthority (special : Bool) (cs : List Char) : Bool :=
  let (place, credentials) := afterCredentials cs
  let (host, number) := splitHost false place
  if host = [] then !special && !credentials && number.isNone
  else Host.isValid special host && number.all isHostNumber

/-! ### Files -/

/-- A letter with a colon or a bar, which in the place of a host begins a path. -/
def isDriveLetter : List Char → Bool
  | [c, mark] => c.isAlpha && (mark == ':' || mark == '|')
  | _ => false

/-- What follows `file:`. A host stands after two slashes and may be missing. -/
def isFileRest : List Char → Bool
  | a :: b :: rest =>
    if isSlash a && isSlash b then
      let host := rest.takeWhile fun c => !endsAuthority true c
      host = [] || isDriveLetter host || Host.isValid true host
    else true
  | _ => true

/-! ### URLs -/

/-- Whether a URL can go on in this way after its scheme and the colon. -/
def isRest (scheme rest : List Char) : Bool :=
  if scheme = "file".toList then isFileRest rest
  else if specialSchemes.contains scheme then
    isAuthority true ((rest.dropWhile isSlash).takeWhile fun c => !endsAuthority true c)
  else match rest with
    | '/' :: '/' :: rest => isAuthority false (rest.takeWhile fun c => !endsAuthority false c)
    | _ => true

/-- The scheme of a URL. -/
def scheme? (t : Text) : Option (List Char) :=
  match splitScheme (clean t) with
  | none => none
  | some (scheme, rest) => if isRest scheme rest then some scheme else none

end Url

end ConfigClient
