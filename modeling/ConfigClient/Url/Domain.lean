import ConfigClient.Text
import ConfigClient.Text.Normal
import ConfigClient.Text.Unicode
import ConfigClient.Url.Domain.Mapping

/-!
# Domains

Internationalised host names: the labels of one, their form in ASCII, and the name as a whole.
-/

namespace ConfigClient

/-! ## Labels of domain names

What a label, a part of a domain name between dots, has to satisfy if it is not in ASCII. Labels are
lists of code points.

* `Label.joiners?`: what the invisible joining characters in a label say about it.
* `Label.isOneWay`: whether a label can be shown in one direction.
* `Label.isValid`: whether a label is allowed.
-/

namespace Url

namespace Label

/-! ### Joining characters -/

/-- Forbids its neighbours to join. -/
def nonJoiner : Nat := 0x200C

/-- Asks its neighbours to join. -/
def joiner : Nat := 0x200D

/-- Whether a character takes the vowel from the one before it. After such a sign a joining
character has a meaning. -/
def isVirama (n : Nat) : Bool := Normal.classOf n == 9

/-- What the first joining character says about a label, none if there is none. Without a vowel
sign before it only a non-joiner is allowed, and only where letters would otherwise join. `before`
is what stands in front, last code point first. -/
def joiners? (before : List Nat) : List Nat → Option Bool
  | [] => none
  | n :: rest =>
    if n = nonJoiner then
      some (before.head?.any isVirama ||
        (before.any Joining.joinsAfter && rest.any Joining.joinsBefore))
    else if n = joiner then some (before.head?.any isVirama)
    else joiners? (n :: before) rest

/-! ### Direction -/

/-- Whether a label has something that is written from right to left. -/
def isRightToLeft (directions : List Direction) : Bool :=
  directions.any fun d => d = .rightToLeft || d = .arabicLetter || d = .arabicNumber

/-- The classes that may stand in a label of either direction. -/
def isShared (d : Direction) : Bool :=
  match d with
  | .europeanNumber => true
  | .europeanSeparator => true
  | .commonSeparator => true
  | .europeanTerminator => true
  | .neutral => true
  | .boundaryNeutral => true
  | .nonspacing => true
  | _ => false

/-- The directions without those of the marks at the end. -/
def withoutMarks (directions : List Direction) : List Direction :=
  (directions.reverse.dropWhile (· = .nonspacing)).reverse

/-- A label that begins from left to right ends with a letter or a number and has nothing of the
other direction. -/
def isLeftToRightLabel (directions : List Direction) : Bool :=
  directions.all (fun d => isShared d || d = .leftToRight) &&
    directions.getLast?.any fun d => d = .leftToRight || d = .europeanNumber

/-- A label that begins from right to left ends with a letter or a number, has nothing of the other
direction, and has numbers of one kind. -/
def isRightToLeftLabel (directions : List Direction) : Bool :=
  directions.all (fun d => isShared d || isRightToLeft [d]) &&
    directions.getLast?.any (fun d => isRightToLeft [d] || d = .europeanNumber) &&
    !(directions.contains .arabicNumber && directions.contains .europeanNumber)

/-- Whether a label can be shown in one direction. -/
def isOneWay (label : List Nat) : Bool :=
  let directions := label.map Direction.ofCode
  let shown := withoutMarks directions
  if isRightToLeft directions then
    if directions.head? = some .leftToRight then isLeftToRightLabel shown
    else isRightToLeftLabel shown
  else shown ≠ []

/-! ### Labels -/

/-- Whether a label is allowed: it does not begin with a mark, and the rule for its first joining
character or else that for its direction is kept. -/
def isValid (label : List Nat) : Bool :=
  label.head?.any (!Mark.isMark ·) && (joiners? [] label).getD (isOneWay label)

end Label

end Url

/-! ## Punycode

A label of a domain name with characters beyond ASCII is written in ASCII: its ASCII characters
first, then a hyphen, then for each other character, in the order of code points, how far it is
from the one before. Distances are numbers to the base 36 whose length adapts to what came before.

* `Punycode.distance?`: a distance and what follows it.
* `Punycode.decode?`: the code points that a label spells.
-/

namespace Url

namespace Punycode

/-- Numbers beyond this are refused. -/
def limit : Nat := 0x7FFFFFFF

/-- The value of a digit: letters first, then decimal digits. -/
def digit? (c : Char) : Option Nat :=
  if 'a' ≤ c ∧ c ≤ 'z' then some (c.toNat - 97)
  else if c.isDigit then some (c.toNat - 22)
  else none

/-- The digit from which on the digit at a place ends a distance; `place` counts in steps of 36. -/
def threshold (place bias : Nat) : Nat :=
  if place ≤ bias then 1 else if bias + 26 ≤ place then 26 else place - bias

/-- A distance, from the digit at `place` on, added to `total`. -/
def distance? (bias place weight total : Nat) : List Char → Option (Nat × List Char)
  | [] => none
  | c :: rest =>
    match digit? c with
    | none => none
    | some digit =>
      let total := total + digit * weight
      let threshold := threshold place bias
      if limit < total then none
      else if digit < threshold then some (total, rest)
      else if limit < weight * (36 - threshold) then none
      else distance? bias (place + 36) (weight * (36 - threshold)) total rest

/-- The bias for small distances, in `steps` divisions at most. -/
def settle : Nat → Nat → Nat → Nat
  | 0, delta, bias => bias + 36 * delta / (delta + 38)
  | steps + 1, delta, bias =>
    if 455 < delta then settle steps (delta / 35) (bias + 36)
    else bias + 36 * delta / (delta + 38)

/-- The bias after a distance, with the number of characters then. -/
def adapt (distance count : Nat) (isFirst : Bool) : Nat :=
  let delta := if isFirst then distance / 700 else distance / 2
  settle delta (delta + delta / count) 0

/-- What has been decoded: the code points, and the place and the code point of the last one. -/
structure State where
  codes : List Nat
  place : Nat
  code : Nat
  bias : Nat

/-- The state after a distance. A code point in ASCII or too large a one is refused. -/
def State.next? (s : State) (distance : Nat) : Option State :=
  let count := s.codes.length + 1
  let position := s.place + distance
  let code := s.code + position / count
  let place := position % count
  if limit < position ∨ limit < code ∨ code < 0x80 then none
  else some {
    codes := s.codes.take place ++ code :: s.codes.drop place
    place := place + 1
    code
    bias := adapt distance count (s.place == 0) }

/-- The code points after all distances, of which there are at most `count`. -/
def decodeFrom? : Nat → State → List Char → Option (List Nat)
  | _, s, [] => some s.codes
  | 0, _, _ :: _ => none
  | count + 1, s, cs =>
    match distance? s.bias 36 1 0 cs with
    | none => none
    | some (distance, rest) => (s.next? distance).bind fun s => decodeFrom? count s rest

/-- What stands before the last hyphen, if there is one, and what stands after it. -/
def splitLastHyphen (cs : List Char) : List Char × List Char :=
  let coded := (cs.reverse.takeWhile (· != '-')).reverse
  (cs.take (cs.length - coded.length - 1), coded)

/-- The code points that a label spells after its mark. -/
def decode? (cs : List Char) : Option (List Nat) :=
  let (basic, coded) := splitLastHyphen cs
  decodeFrom? coded.length ⟨basic.map Char.toNat, 0, 0x80, 72⟩ coded

end Punycode

end Url

/-! ## Domain names

A domain name may be written in any script. It is mapped and brought into its normal form, and then
each of its labels is checked: one in ASCII only if it is marked as one that spells characters
beyond ASCII.

* `Domain.isSpelling`: whether a marked label spells one that is allowed.
* `Domain.name?`: a name in the form in which it is looked up, none if it is no name.
-/

namespace Url

namespace Domain

/-- Whether all code points are in ASCII. -/
def isAscii (codes : List Nat) : Bool := codes.all (· < 0x80)

/-- The mark of a label that spells another. -/
def mark : List Char := "xn--".toList

/-- Whether what follows the mark spells a label that is allowed, that is not in ASCII, and that
has the form in which it is looked up. -/
def isSpelling (cs : List Char) : Bool :=
  !mark.isPrefixOf cs &&
    match Punycode.decode? cs with
    | none => false
    | some label =>
      !isAscii label && Mapping.map? label == some label && Normal.form label == label &&
        Label.isValid label

/-- Whether a label of a mapped name is allowed. An empty one is. -/
def isLabel (label : List Nat) : Bool :=
  let cs := label.map Char.ofNat
  if mark.isPrefixOf cs then isAscii label && isSpelling (cs.drop mark.length)
  else isAscii label || Label.isValid label

/-- The name that a text stands for. -/
def name? (cs : List Char) : Option (List Char) :=
  match Mapping.map? (cs.map Char.toNat) with
  | none => none
  | some codes =>
    let name := (Normal.form codes).map Char.ofNat
    if name ≠ [] ∧ (splitAt '.' name).all fun label => isLabel (label.map Char.toNat) then
      some name
    else none

end Domain

end Url

end ConfigClient
