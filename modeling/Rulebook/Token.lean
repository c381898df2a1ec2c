import Rulebook.Operator
import Rulebook.ParseError
import Rulebook.Text.Trim

/-!
The tokens of a rule text.

A text is cut into pieces: the longest runs of word characters, and every other character for
itself. A piece that is a parenthesis or exactly the word of a connective is a delimiter; so a
connective never hides inside a longer word. What stands between two delimiters, without the blanks
around it, is a fragment, and nothing but blanks is lost.

* `Token.ofText?`: the tokens of a text; a blank text has none and is refused.
-/

namespace Rulebook

/-- A token of a rule text. -/
inductive Token where
  | openParen
  | closeParen
  | connective (op : Connective)
  /-- Text between two delimiters, not yet read as a condition. -/
  | fragment (text : String)
  deriving DecidableEq, Repr, Inhabited

namespace Token

/-- Cuts a text into the longest runs of word characters and single other characters. -/
def pieces (text : List Char) : List (List Char) :=
  text.splitBy fun a b => Text.isWord a && Text.isWord b

/-- The delimiter that a piece is, if it is one. -/
def delimiter? (piece : List Char) : Option Token :=
  if piece = ['('] then some openParen
  else if piece = [')'] then some closeParen
  else (Connective.ofKeyword? (String.ofList piece)).map connective

/-- The fragment between two delimiters; blanks alone are none. -/
def ofGap (gap : List Char) : List Token :=
  if (Text.trim gap).isEmpty then [] else [fragment (String.ofList (Text.trim gap))]

/-- The text before the first delimiter, and the tokens from there on. -/
def gather : List (List Char) → List Char × List Token
  | [] => ([], [])
  | piece :: rest =>
    let (gap, tokens) := gather rest
    match delimiter? piece with
    | some token => ([], token :: (ofGap gap ++ tokens))
    | none => (piece ++ gap, tokens)

/-- The tokens of a text. -/
def scan (text : List Char) : List Token :=
  let (gap, tokens) := gather (pieces text)
  ofGap gap ++ tokens

/-- The tokens of a text that is not blank. -/
def ofText? (text : String) : Except ParseError (List Token) :=
  if (Text.trim text.toList).isEmpty then .error .emptyInput else .ok (scan text.toList)

end Token
end Rulebook
