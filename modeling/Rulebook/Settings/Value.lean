import Rulebook.Number.Decimal
import Rulebook.Number.Shortest
import Rulebook.Text.Cut

/-!
Values of settings.

What a setting is meant to be is decided by who reads it, so every value that can be read as text, as
a flag or as a port is.

* `Setting.text?`, `Setting.flag?`, `Setting.port?`, `Setting.texts?`: the readings of a value.
* `portOfText?`: the port that a text is.
-/

namespace Rulebook

/-- A value of a setting. -/
inductive Setting where
  /-- No value: what a list has at the places that nothing was put at. -/
  | nothing
  | flag (b : Bool)
  | integer (n : Int)
  /-- A real number; the sign tells the two zeros apart. -/
  | real (negative : Bool) (x : Double)
  | notANumber
  | text (s : String)
  | list (items : List Setting)
  | table (entries : List (String × Setting))
  deriving Repr, Inhabited

/-- Whether a whole number fits into 64 bits. -/
def fitsInteger (n : Int) : Bool := -Int.pow 2 63 ≤ n && n < Int.pow 2 63

/-- A port. -/
def portOf? (n : Nat) : Option UInt16 := if n < 65536 then some (UInt16.ofNat n) else none

/-- A port in digits, with a plus sign before them or without. -/
def portOfText? (text : String) : Option UInt16 :=
  Decimal.plainDigits? text.toList >>= portOf?

namespace Setting

/-- How reals are written. -/
def style : Shortest.Style := ⟨true, false, none⟩

/-- A real number in text. -/
def realText (negative : Bool) : Double → String
  | .finite units => style.render negative units.natAbs
  | .infinity => "inf"
  | .negativeInfinity => "-inf"

/-- A value as text. -/
def text? : Setting → Option String
  | nothing => none
  | flag b => some (if b then "true" else "false")
  | integer n => some (toString n)
  | real negative x => some (realText negative x)
  | notANumber => some "NaN"
  | text s => some s
  | list _ => none
  | table _ => none

/-- A value as a flag: a number unless it is zero, and a word for yes or no in any letter case. -/
def flag? : Setting → Option Bool
  | nothing => none
  | flag b => some b
  | integer n => some (n ≠ 0)
  | real _ x => some (x ≠ .zero)
  | notANumber => some true
  | text s =>
    match Text.small s with
    | "1" | "true" | "on" | "yes" => some true
    | "0" | "false" | "off" | "no" => some false
    | _ => none
  | list _ => none
  | table _ => none

/-- A real number rounded to the nearest whole one, a half up, if that can be a port; what is below
zero counts as zero. -/
def portOfReal? : Double → Option UInt16
  | .finite units => portOf? ((2 * units.toNat + Double.oneUnits) / (2 * Double.oneUnits))
  | .infinity => none
  | .negativeInfinity => portOf? 0

/-- A value as a port. -/
def port? : Setting → Option UInt16
  | nothing => none
  | flag b => portOf? b.toNat
  | integer n => if n < 0 then none else portOf? n.toNat
  | real _ x => portOfReal? x
  | notANumber => portOf? 0
  | text s =>
    match Text.small s with
    | "true" | "on" | "yes" => portOf? 1
    | "false" | "off" | "no" => portOf? 0
    | _ => portOfText? s
  | list _ => none
  | table _ => none

/-- A list of values as texts. -/
def texts? : Setting → Option (List String)
  | list items => items.mapM text?
  | _ => none

end Setting
end Rulebook
