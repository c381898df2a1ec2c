import Rulebook.Text.Property.Upper

/-!
Upper case.

* `uppercase`: a text with every character in upper case, whatever stands around it. One character
  can become several: `ß` becomes `SS`.
-/

namespace Rulebook.Text

/-- The code point in upper case that a run has for a code point. -/
def upperInRun? (code : Nat) (run : Nat × Nat × Nat × Nat) : Option Nat :=
  let (first, last, step, upper) := run
  if first ≤ code && code ≤ last && (code - first) % step == 0 then some (upper + (code - first))
  else none

/-- The code points of the upper case of a code point outside ASCII. -/
def upperCodes (code : Nat) : List Nat :=
  match Property.upperSequences.lookup code with
  | some codes => codes
  | none => [(Property.upperRuns.findSome? (upperInRun? code)).getD code]

/-- A character in upper case. -/
def upperChar (c : Char) : List Char :=
  if c.toNat < 128 then [c.toUpper] else (upperCodes c.toNat).map Char.ofNat

/-- A text in upper case. -/
def uppercase (s : String) : String := String.ofList (s.toList.flatMap upperChar)

end Rulebook.Text
