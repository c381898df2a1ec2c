import Rulebook.Json.Basic
import Rulebook.Number.Shortest

/-!
The compact text of JSON values.

Nothing stands between the parts; members are written as they come. Whole numbers that fit into
64 bits are written out, every other number as the shortest text of its nearest double.

* `Json.toText`: the text of a value.
-/

namespace Rulebook.Json

/-- Doubles always show that they are no whole numbers, and have an exponent part below `10^-5` and
from `10^16` on. -/
def Number.style : Shortest.Style := ⟨false, true, some (-6, 16)⟩

/-- The text of a number. -/
def Number.toText (n : Number) : String :=
  let d := n.decimal
  if n.integral && !d.negative && d.significand < Nat.pow 2 64 then toString d.significand
  else if n.integral && d.negative && 0 < d.significand && d.significand ≤ Nat.pow 2 63 then
    "-" ++ toString d.significand
  else match d.toDouble with
    | .finite units => Number.style.render d.negative units.natAbs
    | .infinity | .negativeInfinity => "null"

/-- Two hexadecimal digits. -/
def hexByte (n : Nat) : List Char := [Nat.digitChar (n / 16 % 16), Nat.digitChar (n % 16)]

/-- A character inside a string: quotes, backslashes and controls are escaped, all else stands for
itself. -/
def escapeChar (c : Char) : List Char :=
  match c with
  | '"' => ['\\', '"']
  | '\\' => ['\\', '\\']
  | '\x08' => ['\\', 'b']
  | '\x0c' => ['\\', 'f']
  | '\n' => ['\\', 'n']
  | '\r' => ['\\', 'r']
  | '\t' => ['\\', 't']
  | c => if c.toNat < 0x20 then ['\\', 'u', '0', '0'] ++ hexByte c.toNat else [c]

/-- A string between its quotes. -/
def quoted (s : String) : String := String.ofList ('"' :: s.toList.flatMap escapeChar ++ ['"'])

mutual

/-- The compact text of a value. -/
def toText : Json → String
  | null => "null"
  | bool b => if b then "true" else "false"
  | number n => n.toText
  | string s => quoted s
  | array items => "[" ++ ",".intercalate (itemTexts items) ++ "]"
  | object members => "\x7b" ++ ",".intercalate (memberTexts members) ++ "\x7d"

/-- The texts of the items of an array. -/
def itemTexts : List Json → List String
  | [] => []
  | item :: rest => toText item :: itemTexts rest

/-- The texts of the members of an object. -/
def memberTexts : List (String × Json) → List String
  | [] => []
  | (name, value) :: rest => (quoted name ++ ":" ++ toText value) :: memberTexts rest

end

end Rulebook.Json
