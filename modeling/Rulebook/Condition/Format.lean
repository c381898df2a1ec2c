import Rulebook.Condition.Basic
import Rulebook.ParseError

/-!
The text of a condition: a field name, a sign, and a value, with blanks between them as one likes.

A value is either between single quotes, and then any text without a single quote, or a bare word:
word characters, with at most one point among them.

* `Condition.ofText?`: the condition that a fragment is.
* `Condition.toText`: a text of a condition. The quotes are left out around values that stand for
  numbers, if no other character than letters, numbers, `_` and `.` is in them.
-/

namespace Rulebook.Condition

/-- Drops the blanks at the start. -/
def skipBlanks (text : List Char) : List Char := text.dropWhile Text.isBlank

/-- Whether a text is a word: word characters, and at least one. -/
def isName (text : List Char) : Bool := !text.isEmpty && text.all Text.isWord

/-- The value that a bare word is: a word, and perhaps a point and another word. -/
def bareValue? (text : List Char) : Option String :=
  let word := text.takeWhile Text.isWord
  match text.dropWhile Text.isWord with
  | [] => if isName word then some (String.ofList text) else none
  | '.' :: rest => if isName word && isName rest then some (String.ofList text) else none
  | _ => none

/-- The value behind an opening quote, up to a closing quote at the end of the text. -/
def quotedValue? (text : List Char) : Option String :=
  match text.dropWhile (· != '\'') with
  | ['\''] => some (String.ofList (text.takeWhile (· != '\'')))
  | _ => none

/-- The value that a whole text is. -/
def value? : List Char → Option String
  | '\'' :: rest => quotedValue? rest
  | text => bareValue? text

/-- The condition that a whole text is. -/
def read? (text : List Char) : Option Condition := do
  let field := text.takeWhile Text.isWord
  match skipBlanks (text.dropWhile Text.isWord) with
  | sign :: rest =>
    let comparison ← Comparison.ofSymbol? (String.singleton sign)
    let value ← value? (skipBlanks rest)
    if field.isEmpty then none else some { field := String.ofList field, comparison, value }
  | [] => none

/-- The condition that a fragment is; the fragment is kept in the refusal as it is. -/
def ofText? (fragment : String) : Except ParseError Condition :=
  match read? fragment.toList with
  | some condition => .ok condition
  | none => .error (.invalidCondition fragment)

/-- Whether a value is written without quotes. -/
def isBare (value : String) : Bool :=
  !value.isEmpty &&
    value.toList.all (fun c => Text.isAlphanumeric c || c == '_' || c == '.') &&
    (Literal.toNumber? value).isSome

/-- A text of a condition. -/
def toText (c : Condition) : String :=
  if isBare c.value then c.field ++ " " ++ c.comparison.symbol ++ " " ++ c.value
  else c.field ++ " " ++ c.comparison.symbol ++ " '" ++ c.value ++ "'"

end Rulebook.Condition
