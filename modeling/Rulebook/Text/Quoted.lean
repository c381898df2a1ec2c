import Rulebook.Text.Property.Extending
import Rulebook.Text.Property.Unprintable

/-!
Text in which characters are escaped that do not stand for themselves on a screen.

Between double quotes every character can be told apart: quotes and backslashes, controls,
characters without a visible form, and characters that would melt into the one before them are
escaped; the plain space and all else stand for themselves. Outside quotes only the controls are
escaped that a terminal may take for commands.

* `quoted`: a text in quotes.
* `quotedList`: quoted texts between brackets.
* `tamed`: a text without commands.
-/

namespace Rulebook.Text

/-- Whether a character is visible on its own. -/
def isVisible (c : Char) : Bool :=
  c == ' ' || !(Property.unprintable.has c.toNat || Property.extending.has c.toNat)

/-- A character between quotes. -/
def quoteChar (c : Char) : List Char :=
  match c with
  | '\x00' => ['\\', '0']
  | '\t' => ['\\', 't']
  | '\r' => ['\\', 'r']
  | '\n' => ['\\', 'n']
  | '\\' => ['\\', '\\']
  | '"' => ['\\', '"']
  | c => if isVisible c then [c] else ['\\', 'u', '{'] ++ Nat.toDigits 16 c.toNat ++ ['}']

/-- A text in quotes. -/
def quoted (s : String) : String := String.ofList ('"' :: s.toList.flatMap quoteChar ++ ['"'])

/-- Quoted texts between brackets. -/
def quotedList (items : List String) : String := "[" ++ ", ".intercalate (items.map quoted) ++ "]"

/-- A character that a terminal does not take for a command. -/
def tameChar (c : Char) : List Char :=
  if c.toNat ∈ [0x07, 0x08, 0x0c, 0x1b, 0x7f] then
    ['\\', 'x', Nat.digitChar (c.toNat / 16), Nat.digitChar (c.toNat % 16)]
  else if 0x80 ≤ c.toNat ∧ c.toNat ≤ 0x9f then ['\\', 'u', '{'] ++ Nat.toDigits 16 c.toNat ++ ['}']
  else [c]

/-- A text without the controls that a terminal takes for commands. -/
def tamed (s : String) : String := String.ofList (s.toList.flatMap tameChar)

end Rulebook.Text
