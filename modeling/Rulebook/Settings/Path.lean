import Rulebook.Settings.Value

/-!
Where the name of a setting leads.

A name has parts between dots, each of which leads into a table. Behind a part there may be places
between brackets, each of which leads into a list.

* `Setting.path`: the steps that a name stands for.
-/

namespace Rulebook.Setting

/-- A step on the way to a setting. -/
inductive Step where
  /-- To the value of a name in a table. -/
  | name (name : String)
  /-- To an item of a list; below zero, places are counted from the end. -/
  | item (place : Int)
  deriving DecidableEq, Repr

/-- Whether a character can stand in a part of a name. -/
def isNameChar (c : Char) : Bool := c.toNat < 128 && (c.isAlphanum || c = '_' || c = '-')

/-- Whether a character can stand around a place. -/
def isGap (c : Char) : Bool := c = ' ' || c = '\t'

/-- The place that a text between brackets is. -/
def place? (text : List Char) : Option Int :=
  match ((text.dropWhile isGap).reverse.dropWhile isGap).reverse with
  | '+' :: _ => none
  | digits => (Decimal.signedDigits? digits).filter fitsInteger

/-- The steps into lists that a text is. -/
def items? (text : List Char) : Option (List Step) :=
  match (Text.cut ']' text).reverse with
  | [] :: opened => opened.reverse.mapM fun
    | '[' :: place => (place? place).map .item
    | _ => none
  | _ => none

/-- The steps that a part of a name stands for. -/
def part? (text : List Char) : Option (List Step) :=
  let name := text.takeWhile isNameChar
  if name.isEmpty then none
  else (items? (text.dropWhile isNameChar)).map (.name (String.ofList name) :: ·)

/-- The steps that a name stands for: those of its parts, or one step to the name as it is, unless
all the parts are well formed. -/
def path (name : String) : List Step :=
  match (Text.cut '.' name.toList).mapM part? with
  | some parts => parts.flatten
  | none => [.name name]

end Rulebook.Setting
