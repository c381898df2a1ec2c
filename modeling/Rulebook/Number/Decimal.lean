import Rulebook.Number.Double
import Rulebook.Text.Class

/-!
Numbers in decimal notation.

* `Decimal.ofText?`: reads an optional sign, digits with at most one point among or around them,
  and an optional exponent.
* `Decimal.toDouble`: the double nearest to the exact value; the text is rounded once.
-/

namespace Rulebook

/-- The number `±significand · 10^exponent`, as it was written. -/
structure Decimal where
  negative : Bool
  significand : Nat
  exponent : Int
  deriving DecidableEq, Repr, Inhabited

namespace Decimal

/-- The value of a digit of a base up to sixteen, in either letter case. -/
def digitValue? (base : Nat) (c : Char) : Option Nat :=
  let value :=
    if '0' ≤ c && c ≤ '9' then c.toNat - '0'.toNat
    else if 'a' ≤ c && c ≤ 'f' then c.toNat - 'a'.toNat + 10
    else if 'A' ≤ c && c ≤ 'F' then c.toNat - 'A'.toNat + 10
    else base
  if value < base then some value else none

/-- The whole number that a run of ASCII digits stands for. -/
def natOfDigits (digits : List Char) : Nat :=
  digits.foldl (fun n c => 10 * n + (c.toNat - '0'.toNat)) 0

/-- Splits off the leading ASCII digits. -/
def spanDigits (text : List Char) : List Char × List Char :=
  (text.takeWhile Text.isAsciiDigit, text.dropWhile Text.isAsciiDigit)

/-- Splits off a sign; without one the number is not negative. -/
def takeSign : List Char → Bool × List Char
  | '+' :: rest => (false, rest)
  | '-' :: rest => (true, rest)
  | text => (false, text)

/-- A whole number that may have a plus sign, up to the end of the text. -/
def plainDigits? (text : List Char) : Option Nat :=
  let digits := match text with
    | '+' :: digits => digits
    | digits => digits
  if digits.isEmpty || !digits.all Text.isAsciiDigit then none else some (natOfDigits digits)

/-- A whole number with an optional sign, up to the end of the text. -/
def signedDigits? (text : List Char) : Option Int :=
  let (negative, digits) := takeSign text
  if digits.isEmpty || !digits.all Text.isAsciiDigit then none
  else some (if negative then -natOfDigits digits else natOfDigits digits)

/-- The exponent part, up to the end of the text; there may be none. -/
def exponentPart? : List Char → Option Int
  | [] => some 0
  | 'e' :: rest => signedDigits? rest
  | 'E' :: rest => signedDigits? rest
  | _ => none

/-- The fraction part: a point and the digits behind it, which may be missing. -/
def fractionPart : List Char → List Char × List Char
  | '.' :: rest => spanDigits rest
  | text => ([], text)

/-- Reads a number: an optional sign, digits with at most one point, and an optional exponent. There
is at least one digit beside the point, before or behind it. -/
def ofText? (text : List Char) : Option Decimal :=
  let (negative, text) := takeSign text
  let (whole, text) := spanDigits text
  let (fraction, text) := fractionPart text
  if whole.isEmpty && fraction.isEmpty then none
  else (exponentPart? text).map fun e =>
    { negative, significand := natOfDigits (whole ++ fraction), exponent := e - fraction.length }

/-- The largest exponent that is computed with: above it every number but zero is infinite. -/
def exponentLimit : Nat := 400

/-- The double nearest to the exact value. The two shortcuts only save work: `10^401` is beyond
every finite double, and a number below `2^-1100` is nearest to zero. -/
def toDouble (d : Decimal) : Double :=
  match d.exponent with
  | .ofNat e =>
    if d.significand = 0 then .zero
    else if exponentLimit < e then if d.negative then .negativeInfinity else .infinity
    else .ofRatio d.negative (d.significand * Nat.pow 10 e * Double.oneUnits) 1
  | .negSucc e =>
    if Nat.log2 d.significand + 1101 < 3 * (e + 1) then .zero
    else .ofRatio d.negative (d.significand * Double.oneUnits) (Nat.pow 10 (e + 1))

end Decimal
end Rulebook
