/-!
Text cut at a character, and text in small letters.

* `cut`: the parts of a text between the places where a character stands.
* `small`: a text with its ASCII letters in small.
-/

namespace Rulebook.Text

/-- Cuts a text at a character. There is one part more than the character stands in the text. -/
def cut (mark : Char) : List Char → List (List Char)
  | [] => [[]]
  | c :: rest =>
    if c = mark then [] :: cut mark rest
    else match cut mark rest with
      | [] => [[c]]
      | part :: others => (c :: part) :: others

theorem cut_ne_nil (mark : Char) (text : List Char) : cut mark text ≠ [] := by
  cases text with
  | nil => simp [cut]
  | cons c rest =>
    unfold cut
    split
    · simp
    · split <;> simp

/-- A text with its ASCII letters in small. -/
def small (text : String) : String := String.ofList (text.toList.map Char.toLower)

end Rulebook.Text
