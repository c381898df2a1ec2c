import Rulebook.Json.Basic
import Rulebook.Settings.Layer

/-!
Where layers of settings come from.

* `Layer.ofJson?`: the layer of a file.
* `Layer.ofVariables`: the layer of the environment.
-/

namespace Rulebook

namespace Setting

/-- A number as a value; whole numbers have one zero, which no minus sign goes with. -/
def ofNumber? (n : Json.Number) : Option Setting :=
  let d := n.decimal
  if n.integral && !(d.negative && d.significand = 0) then
    let value : Int := if d.negative then -d.significand else d.significand
    if fitsInteger value then some (integer value) else none
  else some (real d.negative n.toDouble)

mutual

/-- The value of a setting that a JSON value is; null is none. -/
def ofJson? : Json → Option Setting
  | .null => none
  | .bool b => some (flag b)
  | .number n => ofNumber? n
  | .string s => some (text s)
  | .array items => (ofItems? items).map list
  | .object members => (ofMembers? members).map table

/-- `ofJson?` on the items of an array. -/
def ofItems? : List Json → Option (List Setting)
  | [] => some []
  | item :: rest => do some ((← ofJson? item) :: (← ofItems? rest))

/-- `ofJson?` on the members of an object. -/
def ofMembers? : List (String × Json) → Option (List (String × Setting))
  | [] => some []
  | (name, value) :: rest => do some ((name, ← ofJson? value) :: (← ofMembers? rest))

end

/-- The real number that a text is, in decimal notation or by a name of its own. -/
def realOfText? (text : String) : Option Setting :=
  let (negative, digits) := Decimal.takeSign text.toList
  match Text.small (String.ofList digits) with
  | "inf" | "infinity" => some (real negative (if negative then .negativeInfinity else .infinity))
  | "nan" => some notANumber
  | _ => (Decimal.ofText? text.toList).map fun d => real d.negative d.toDouble

/-- The whole number that a text is. -/
def integerOfText? (text : String) : Option Setting :=
  match Decimal.signedDigits? text.toList with
  | some n => if fitsInteger n then some (integer n) else none
  | none => none

/-- The flag that a text is, in any letter case. -/
def flagOfText? (text : String) : Option Setting :=
  match Text.small text with
  | "true" => some (flag true)
  | "false" => some (flag false)
  | _ => none

/-- What a variable says about a name: a flag, a number, or text. Text for the origins is a list. -/
def ofVariable (name value : String) : Setting :=
  match flagOfText? value, integerOfText? value, realOfText? value with
  | some b, _, _ => b
  | none, some n, _ => n
  | none, none, some x => x
  | none, none, none =>
    if name = "server.cors_origins" then
      list ((Text.cut ',' value.toList).map fun part => text (String.ofList part))
    else text value

end Setting

namespace Layer

/-- The layer of a file. -/
def ofJson? : Json → Option Layer
  | .object members => Setting.ofMembers? members
  | _ => none

/-- Puts a dot for every two underscores. -/
def dotted : List Char → List Char
  | '_' :: '_' :: rest => '.' :: dotted rest
  | c :: rest => c :: dotted rest
  | [] => []

/-- What the names of variables about settings begin with. -/
def variableStart : String := "rules_"

/-- The name that a variable sets, in any letter case; two underscores lead into a table. -/
def variableName? (key : String) : Option String :=
  let name := Text.small key
  if variableStart.isPrefixOf name then
    some (String.ofList (dotted (name.toList.drop variableStart.length)))
  else none

/-- The layer of the environment. -/
def ofVariables (vars : List (String × String)) : Layer :=
  vars.filterMap fun (key, value) =>
    (variableName? key).map fun name => (name, .ofVariable name value)

end Layer
end Rulebook
