import ConfigClient.Text

/-!
# Doubles

Binary floating-point numbers of 64 bits as data, with their shortest decimal form and with the
numbers that texts spell. All of it is exact integer arithmetic.
-/

namespace ConfigClient

/-! ## Doubles

Numbers are binary64: a sign, an 11-bit exponent and a 52-bit fraction, two infinities and one
value that is not a number. All finite numbers are multiples of `2⁻¹⁰⁷⁴`, so arithmetic on them is
arithmetic on whole numbers of these units.

* `Double.units`: the magnitude of a finite number, in units of `2⁻¹⁰⁷⁴`.
* `Double.ofUnits`: the number of a given magnitude, `Double.nearest` the number nearest to a
  quotient, a tie going to the even neighbour.
* `Double.le`, `Double.lt`: the order, in which no comparison with `nan` holds.
-/

/-- A number of 64 bits. -/
inductive Double where
  | nan
  | infinite (negative : Bool)
  | finite (negative : Bool) (exponent : Fin 2047) (fraction : Fin (Nat.pow 2 52))
  deriving DecidableEq

namespace Double

/-- One, in units of `2⁻¹⁰⁷⁴`. -/
def oneUnits : Nat := Nat.pow 2 1074

/-- The magnitude in units of `2⁻¹⁰⁷⁴`; only a number with exponent `0` lacks the leading bit. -/
def units : Double → Nat
  | nan => 0
  | infinite _ => 0
  | finite _ exponent fraction =>
    if exponent.val = 0 then fraction.val
    else (Nat.pow 2 52 + fraction.val) * Nat.pow 2 (exponent.val - 1)

/-- The number of `m` units. What lies below the last place is cut off, and what is too large for
the exponent becomes infinite. -/
def ofUnits (negative : Bool) (m : Nat) : Double :=
  let shift := m.log2 - 52
  let significand := m / Nat.pow 2 shift
  let fraction : Fin (Nat.pow 2 52) := ⟨significand % Nat.pow 2 52, Nat.mod_lt _ (by decide)⟩
  if significand < Nat.pow 2 52 then finite negative 0 fraction
  else if h : shift + 1 < 2047 then finite negative ⟨shift + 1, h⟩ fraction
  else infinite negative

/-- The whole number nearest to `n / d`, a tie going to the even one. -/
def roundQuotient (n d : Nat) : Nat :=
  let q := n / d
  let r := n % d
  if 2 * r < d then q else if d < 2 * r then q + 1 else q + q % 2

/-- The number nearest to `n / d`, a tie going to the even one. -/
def nearest (negative : Bool) (n d : Nat) : Double :=
  let n := n * oneUnits
  let shift := (n / d).log2 - 52
  ofUnits negative (roundQuotient n (d * Nat.pow 2 shift) * Nat.pow 2 shift)

/-- The number nearest to a whole one. -/
def ofNat (n : Nat) : Double := nearest false n 1

/-- Whether the number is zero, of either sign. -/
def isZero : Double → Bool
  | finite _ exponent fraction => exponent.val == 0 && fraction.val == 0
  | _ => false

/-- Whether the number is neither infinite nor `nan`. -/
def isFinite : Double → Bool
  | finite .. => true
  | _ => false

/-- Whether the number is whole. -/
def isWhole : Double → Bool
  | x@(finite ..) => x.units % oneUnits == 0
  | _ => false

/-- The value in units of `2⁻¹⁰⁷⁴`, with its sign. -/
def signedUnits : Double → Int
  | x@(finite negative _ _) => if negative then - (x.units : Int) else x.units
  | _ => 0

/-- The order. Both zeros are equal, and `nan` is not comparable, not even with itself. -/
def le : Double → Double → Bool
  | nan, _ => false
  | _, nan => false
  | infinite true, _ => true
  | _, infinite false => true
  | x@(finite ..), y@(finite ..) => x.signedUnits ≤ y.signedUnits
  | infinite false, finite .. => false
  | finite .., infinite true => false
  | infinite false, infinite true => false

/-- The strict order. -/
def lt (x y : Double) : Bool := le x y && !le y x

end Double

/-! ## Decimal text of doubles

* `Double.ofDecimal`: the number nearest to `m · 10ᵉ`.
* `Double.shortest`: the fewest decimal digits that read back as the number, and of these the
  nearest to it.
* `Double.toText`: those digits laid out, positionally from `10⁻⁶` up to `10²¹` and with an
  exponent outside.
-/

namespace Double

/-! ### Reading -/

/-- The quotient that `m · 10ᵉ` is. -/
def powerOfTen (m : Nat) (e : Int) : Nat × Nat :=
  match e with
  | .ofNat k => (m * Nat.pow 10 k, 1)
  | .negSucc k => (m, Nat.pow 10 (k + 1))

/-- The number nearest to `m · 10ᵉ`. From `10³¹⁰` on every number is infinite and below `10⁻³³⁰`
every number is zero, so larger powers are never computed. -/
def ofDecimal (negative : Bool) (m : Nat) (e : Int) : Double :=
  let top := (Nat.toDigits 10 m).length + e
  if m = 0 ∨ top < -330 then ofUnits negative 0
  else if 310 < top then infinite negative
  else
    let (n, d) := powerOfTen m e
    nearest negative n d

/-! ### Shortest digits -/

/-- Decimal digits and the place of the point: `0.d₁d₂… · 10^point`. -/
structure Digits where
  digits : Text
  point : Int

/-- The number of places before the point, at most `0` for a number below one: the `p` with `10ᵖ⁻¹
≤ x < 10ᵖ`. -/
def places (units : Nat) : Int :=
  if oneUnits ≤ units then (Nat.toDigits 10 (units / oneUnits)).length
  else 1 - (Nat.toDigits 10 ((oneUnits - 1) / units)).length

/-- The two neighbours of a magnitude on the grid of multiples of `10ᵉ`, the nearer first and of
two equally near the even one. -/
def neighbours (units : Nat) (e : Int) : List Nat :=
  let (n, d) := match e with
    | .ofNat k => (units, oneUnits * Nat.pow 10 k)
    | .negSucc k => (units * Nat.pow 10 (k + 1), oneUnits)
  let below := n / d
  let first := roundQuotient n d
  if first = below then [below, below + 1] else [below + 1, below]

/-- The first of the neighbours of `x` on the grid of `count` digits that reads back as `x`. -/
def withDigits? (x : Double) (count : Nat) : Option (Nat × Int) :=
  let e := places x.units - count
  ((neighbours x.units e).find? fun m => ofDecimal false m e == ofUnits false x.units).map (·, e)

/-- A positive number as `m · 10ᵉ` with the fewest digits that read back. Seventeen always do; the
exact value stands last so that nothing rests on that. -/
def shortest (x : Double) : Nat × Int :=
  ((List.range' 1 17).findSome? (withDigits? x)).getD (x.units * Nat.pow 5 1074, -1074)

/-! ### Layout -/

/-- The digits of `m · 10ᵉ` without the zeros at their end. -/
def Digits.ofScaled (m : Nat) (e : Int) : Digits :=
  let all := Text.ofNat m
  { digits := (all.reverse.dropWhile (· == Text.unit '0')).reverse
    point := all.length + e }

/-- A row of zeros. -/
def zeros (n : Nat) : Text := List.replicate n (Text.unit '0')

/-- With an exponent: one digit before the point, and the exponent's sign always written. -/
def Digits.scientific (d : Digits) : Text :=
  let e := d.point - 1
  let exponent : Text :=
    Text.unit 'e' :: (if 0 ≤ e then Text.unit '+' else Text.unit '-') :: Text.ofNat e.natAbs
  match d.digits with
  | [] => exponent
  | [u] => u :: exponent
  | u :: rest => u :: Text.unit '.' :: rest ++ exponent

/-- Positional from `10⁻⁶` up to `10²¹`, with an exponent outside. -/
def Digits.layout (d : Digits) : Text :=
  if -6 < d.point ∧ d.point ≤ 0 then
    Text.unit '0' :: Text.unit '.' :: zeros (-d.point).toNat ++ d.digits
  else if 0 < d.point ∧ d.point ≤ 21 then
    let whole := d.point.toNat
    if d.digits.length ≤ whole then d.digits ++ zeros (whole - d.digits.length)
    else d.digits.take whole ++ Text.unit '.' :: d.digits.drop whole
  else d.scientific

/-- The text of a number. The sign of zero is not shown. -/
def toText : Double → Text
  | nan => "NaN"
  | infinite false => "Infinity"
  | infinite true => "-Infinity"
  | x@(finite negative _ _) =>
    if x.isZero then "0"
    else
      let (m, e) := x.shortest
      (if negative then [Text.unit '-'] else []) ++ (Digits.ofScaled m e).layout

end Double

/-! ## Numerals in text

* `Numeral`: the parts of a decimal numeral, `Numeral.value` the double nearest to it.
* `Double.ofText`: the number that a text counts as. Blanks around a numeral do not matter, a text
  of blanks is zero, and what is no numeral is `nan`.
-/

/-- The parts of a numeral: `± whole . fraction · 10^exponent`. -/
structure Numeral where
  negative : Bool
  whole : Text
  fraction : Text
  exponent : Int

namespace Numeral

/-- The number nearest to what a numeral says. -/
def value (n : Numeral) : Double :=
  let digits : Text := n.whole ++ n.fraction
  Double.ofDecimal n.negative digits.numeral (n.exponent - n.fraction.length)

/-! ### Parts -/

/-- The digits at the start, and the rest. -/
def spanDigits (t : Text) : Text × Text := (t.takeWhile Text.isDigit, t.dropWhile Text.isDigit)

/-- Whether a text begins with a minus, and what follows the sign if it has one. -/
def spanSign : Text → Bool × Text
  | [] => (false, [])
  | u :: rest =>
    if u = Text.unit '-' then (true, rest)
    else if u = Text.unit '+' then (false, rest)
    else (false, u :: rest)

/-- An exponent without its `e`: a sign if wanted, and digits up to the end. -/
def exponent? (t : Text) : Option Int :=
  let (negative, ds) := spanSign t
  if ds = [] ∨ ¬ds.all Text.isDigit then none
  else some (if negative then -(ds.numeral : Int) else ds.numeral)

/-- What may follow the fraction: nothing, or an exponent up to the end. -/
def ending? : Text → Option Int
  | [] => some 0
  | u :: rest => if u = Text.unit 'e' ∨ u = Text.unit 'E' then exponent? rest else none

/-! ### Reading -/

/-- A numeral without a sign. One of whole part and fraction may be empty. -/
def unsigned? (negative : Bool) (t : Text) : Option Numeral := do
  let (whole, rest) := spanDigits t
  let (fraction, rest) :=
    if rest.head? = some (Text.unit '.') then spanDigits rest.tail else ([], rest)
  if whole = [] ∧ fraction = [] then none
  else return ⟨negative, whole, fraction, ← ending? rest⟩

end Numeral

namespace Double

/-- The blanks around a numeral: all that Unicode has, line ends, and the byte order mark. -/
def isBlank (u : UInt16) : Bool :=
  (0x09 ≤ u && u ≤ 0x0D) || u == 0x20 || u == 0xA0 || u == 0x1680 ||
    (0x2000 ≤ u && u ≤ 0x200A) || u == 0x2028 || u == 0x2029 || u == 0x202F || u == 0x205F ||
    u == 0x3000 || u == 0xFEFF

/-- A text without the blanks around it. -/
def trim (t : Text) : Text := ((t.dropWhile isBlank).reverse.dropWhile isBlank).reverse

/-- The base that a letter after a leading zero announces. -/
def base? (c : Char) : Option Nat :=
  if c = 'x' ∨ c = 'X' then some 16
  else if c = 'o' ∨ c = 'O' then some 8
  else if c = 'b' ∨ c = 'B' then some 2
  else none

/-- A whole number in digits to an announced base. -/
def based? : List Char → Option Nat
  | '0' :: letter :: digit :: rest => (base? letter).bind fun base => number? base (digit :: rest)
  | _ => none

/-- The number that a text counts as (`Number`). -/
def ofText (t : Text) : Double :=
  let t := trim t
  if t = [] then ofUnits false 0
  else match based? t.toChars with
    | some n => ofNat n
    | none =>
      let (negative, rest) := Numeral.spanSign t
      if rest = ("Infinity" : Text) then infinite negative
      else match Numeral.unsigned? negative rest with
        | some n => n.value
        | none => nan

/-- The whole number of any size that a text counts as. -/
def integerOfText? (t : Text) : Option Int :=
  let t := trim t
  match based? t.toChars with
  | some n => some n
  | none =>
    let (negative, digits) := Numeral.spanSign t
    if digits.all Text.isDigit ∧ (digits ≠ [] ∨ t = []) then
      some (if negative then -(digits.numeral : Int) else digits.numeral)
    else none

end Double

end ConfigClient
