import Rulebook.Text.Property.Alphabetic
import Rulebook.Text.Property.Mark
import Rulebook.Text.Property.Number

/-!
The character classes of the rule language.

Rule text is split at words and blanks, so the classes decide what is a field name, where a
keyword ends and which literals may stand without quotes.

* `isBlank`: white space, the property White_Space.
* `isWord`: what names are made of: letters, marks, digits, connectors and the two joiners.
* `isAlphanumeric`: letters and numbers of every kind, which is neither wider nor narrower than
  `isWord`: `²` is alphanumeric and no word character, `_` the other way round.
* `isWord_eq_false_of_isBlank`: no word character is blank, so a word ends where a blank begins.
-/

namespace Rulebook.Text

/-- The code points of White_Space. -/
def blankCodes : List Nat := [
  0x09, 0x0a, 0x0b, 0x0c, 0x0d, 0x20, 0x85, 0xa0, 0x1680, 0x2000, 0x2001, 0x2002, 0x2003, 0x2004,
  0x2005, 0x2006, 0x2007, 0x2008, 0x2009, 0x200a, 0x2028, 0x2029, 0x202f, 0x205f, 0x3000]

/-- White space. -/
def isBlank (c : Char) : Bool := blankCodes.contains c.toNat

/-- The code points of connector punctuation outside ASCII, and of the two joiners. -/
def connectors : Ranges := [
  (0x200c, 0x200d), (0x203f, 0x2040), (0x2054, 0x2054), (0xfe33, 0xfe34), (0xfe4d, 0xfe4f),
  (0xff3f, 0xff3f)]

/-- An ASCII letter or digit, by code point. -/
def isAsciiAlphanumericCode (code : Nat) : Bool :=
  (0x30 ≤ code && code ≤ 0x39) || (0x41 ≤ code && code ≤ 0x5a) || (0x61 ≤ code && code ≤ 0x7a)

/-- A character of a name, by code point: below 128 the ASCII letters, digits and `_`. -/
def isWordCode (code : Nat) : Bool :=
  if code < 128 then isAsciiAlphanumericCode code || code == 0x5f
  else Property.alphabetic.has code || Property.mark.has code || Property.decimalDigit.has code ||
    connectors.has code

/-- A character of a name. -/
def isWord (c : Char) : Bool := isWordCode c.toNat

/-- A letter or a number of any kind. -/
def isAlphanumeric (c : Char) : Bool :=
  if c.toNat < 128 then isAsciiAlphanumericCode c.toNat
  else Property.alphabetic.has c.toNat || Property.decimalDigit.has c.toNat ||
    Property.otherNumber.has c.toNat

/-- The digits `0` to `9`. -/
def isAsciiDigit (c : Char) : Bool := '0' ≤ c && c ≤ '9'

theorem isWord_eq_false_of_isBlank {c : Char} (h : isBlank c = true) : isWord c = false := by
  have disjoint : ∀ code ∈ blankCodes, isWordCode code = false := by decide +kernel
  exact disjoint _ (List.contains_iff_mem.mp h)

end Rulebook.Text
