import ConfigClient.Text

/-!
# Terminal sequences

Patterns of units, and the sequences that control a terminal as such patterns.
-/

namespace ConfigClient

/-! ## Patterns

Patterns for the beginning of a text. Of several ways to match the first one counts: an
alternative before those after it, and a longer repetition before a shorter one.

* `Pattern.ends`: what remains of a text after each way to match its beginning, in this order.
* `Pattern.removeAll`: a text without the parts that match, searched from the left.
-/

/-- A pattern for the beginning of a text. -/
inductive Pattern where
  /-- Matches without taking anything. -/
  | nothing
  /-- One unit of a class. -/
  | unit (accepts : UInt16 → Bool)
  | seq (first second : Pattern)
  | alt (first second : Pattern)
  /-- Any number of repetitions. -/
  | star (p : Pattern)

namespace Pattern

/-- One or more repetitions. -/
def plus (p : Pattern) : Pattern := seq p (star p)

/-- A pattern or nothing. -/
def optional (p : Pattern) : Pattern := alt p nothing

/-- At most `n` repetitions. -/
def upTo : Nat → Pattern → Pattern
  | 0, _ => nothing
  | n + 1, p => optional (seq p (upTo n p))

/-- The given units one after another. -/
def literal (t : Text) : Pattern := t.foldr (fun u p => seq (unit (· == u)) p) nothing

/-- What remains after at most `n` uses of `ends`, more uses first. -/
def repeatEnds (ends : Text → List Text) : Nat → Text → List Text
  | 0, t => [t]
  | n + 1, t => (ends t).flatMap (repeatEnds ends n) ++ [t]

/-- What remains after each way to match the beginning of a text. A repetition takes at least one
unit, so there are at most as many as the text has units. -/
def ends : Pattern → Text → List Text
  | nothing, t => [t]
  | unit accepts, t =>
    match t with
    | [] => []
    | u :: rest => if accepts u then [rest] else []
  | seq p q, t => (p.ends t).flatMap q.ends
  | alt p q, t => p.ends t ++ q.ends t
  | star p, t => repeatEnds p.ends t.length t

/-- What remains after the first way to match. -/
def rest? (p : Pattern) (t : Text) : Option Text := (p.ends t).head?

/-- A text without its matching parts, for at most `n` steps of the search. -/
def removeUpTo (p : Pattern) : Nat → Text → Text
  | 0, t => t
  | _ + 1, [] => []
  | n + 1, u :: tail =>
    match p.rest? (u :: tail) with
    | some rest => p.removeUpTo n rest
    | none => u :: p.removeUpTo n tail

/-- A text without the parts that match. -/
def removeAll (p : Pattern) (t : Text) : Text := p.removeUpTo t.length t

end Pattern

/-! ## Terminal sequences

Sequences that control a terminal begin with an escape character. `Text.withoutControl` removes
them, so that a text can be written where no terminal shows it.

A sequence has an introducer and some marks after it. Then it goes on in one of two ways: with
words between semicolons up to a terminator, or with numbers between semicolons and one final
character.
-/

namespace Terminal

/-- The characters that begin a sequence. -/
def isEscape (u : UInt16) : Bool := u == 0x1B || u == 0x9B

/-- The marks that may follow. -/
def isMark (u : UInt16) : Bool := decide (u ∈ ("[]()#;?" : Text))

/-- ASCII letters. -/
def isLetter (u : UInt16) : Bool := (65 ≤ u && u ≤ 90) || (97 ≤ u && u ≤ 122)

/-- What a word is made of. -/
def isWordUnit (u : UInt16) : Bool := isLetter u || Text.isDigit u

/-- What an argument is made of. -/
def isArgumentUnit (u : UInt16) : Bool := isWordUnit u || decide (u ∈ ("-/#&.:=?%@~_" : Text))

/-- What stands between arguments. -/
def isSemicolon (u : UInt16) : Bool := u == Text.unit ';'

/-- The characters that can end a sequence of numbers. -/
def isFinal (u : UInt16) : Bool :=
  Text.isDigit u || (Text.unit 'A' ≤ u && u ≤ Text.unit 'P') ||
    (Text.unit 'R' ≤ u && u ≤ Text.unit 'T') || u == Text.unit 'Z' || u == Text.unit 'c' ||
    (Text.unit 'f' ≤ u && u ≤ Text.unit 'n') || (Text.unit 'q' ≤ u && u ≤ Text.unit 'u') ||
    decide (u ∈ ("y=><~" : Text))

/-- A bell, an escape and a backslash, or the terminator as one character. -/
def terminator : Pattern :=
  .alt (.literal [0x07]) (.alt (.literal [0x1B, 0x5C]) (.literal [0x9C]))

/-- Arguments that each follow a semicolon, or a word and such arguments, of which any may be
empty. -/
def arguments : Pattern :=
  .optional <| .alt
    (.star (.seq (.unit isSemicolon) (.plus (.unit isArgumentUnit))))
    (.seq (.plus (.unit isWordUnit))
      (.star (.seq (.unit isSemicolon) (.star (.unit isArgumentUnit)))))

/-- Up to four digits at a time, with semicolons between. -/
def numbers : Pattern :=
  let digit := Pattern.unit Text.isDigit
  .optional <| .seq (.seq digit (.upTo 3 digit)) (.star (.seq (.unit isSemicolon) (.upTo 4 digit)))

/-- A sequence that controls a terminal. -/
def sequence : Pattern :=
  .seq (.unit isEscape) <| .seq (.star (.unit isMark)) <|
    .alt (.seq arguments terminator) (.seq numbers (.unit isFinal))

end Terminal

/-- A text without sequences that control a terminal. -/
def Text.withoutControl (t : Text) : Text := Terminal.sequence.removeAll t

end ConfigClient
