import Rulebook.Number.Decimal
import Rulebook.Text.Trim

/-!
The numbers that a condition's value can stand for.

A value is text; it stands for a number when, without the blanks around it, it is empty (zero),
`Infinity` with an optional sign, a whole number with one of the prefixes `0x`, `0b`, `0o`, or a
number in decimal notation. Every other text stands for no number, `NaN` and `inf` among them.

* `Literal.toNumber?`: the number, if there is one.
-/

namespace Rulebook.Literal

/-- The base that a prefix announces, and the text behind the prefix. -/
def prefixed? : List Char → Option (Nat × List Char)
  | '0' :: 'x' :: digits => some (16, digits)
  | '0' :: 'X' :: digits => some (16, digits)
  | '0' :: 'b' :: digits => some (2, digits)
  | '0' :: 'B' :: digits => some (2, digits)
  | '0' :: 'o' :: digits => some (8, digits)
  | '0' :: 'O' :: digits => some (8, digits)
  | _ => none

/-- Accumulates the digits of a whole number from the left in double precision: every product and
every sum is rounded. -/
def accumulate? (base : Nat) (acc : Double) : List Char → Option Double
  | [] => some acc
  | c :: rest => do
    let digit ← Decimal.digitValue? base c
    accumulate? base ((acc.mulNat base).addNat digit) rest

/-- The words for the infinities. -/
def infinity? (text : List Char) : Option Double :=
  if text = "Infinity".toList || text = "+Infinity".toList then some .infinity
  else if text = "-Infinity".toList then some .negativeInfinity
  else none

/-- The number a value stands for, the blanks around it dropped. -/
def ofTrimmed? (text : List Char) : Option Double :=
  if text.isEmpty then some .zero
  else match infinity? text with
    | some x => some x
    | none =>
      match prefixed? text with
      | some (base, digits) => if digits.isEmpty then none else accumulate? base .zero digits
      | none => (Decimal.ofText? text).map Decimal.toDouble

/-- The number a value stands for. -/
def toNumber? (value : String) : Option Double := ofTrimmed? (Text.trim value.toList)

end Rulebook.Literal
