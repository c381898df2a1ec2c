import Mathlib.Data.List.SplitBy
import Rulebook.Condition.Format
import Rulebook.Token

/-!
Words in a text, and the pieces that a text is cut into.

* `StandsIn`: a word stands in a text, with a boundary on both sides.
* `pieces_append`, `seam_of_pieces`: a text may be cut where no word goes across, and is cut nowhere
  else.
* `mem_pieces_iff_standsIn`: a word is a piece exactly if it stands in the text.
* `Plain`, `plain_iff`: a text without delimiters, by its pieces and by its characters.
-/

namespace Rulebook

namespace Text

/-- Whether a text ends with a word character. -/
def endsInWord (text : List Char) : Bool := text.getLast?.any isWord

/-- Whether a text starts with a word character. -/
def startsInWord (text : List Char) : Bool := text.head?.any isWord

/-- A word begins or ends between two texts side by side; the ends of a text are no part of a
word. -/
def Boundary (before after : List Char) : Prop := endsInWord before ≠ startsInWord after

/-- A word stands in a text, with a boundary on both sides. -/
def StandsIn (word text : List Char) : Prop :=
  ∃ before after, text = before ++ word ++ after ∧ Boundary before (word ++ after) ∧
    Boundary (before ++ word) after

/-! ### The ends of a text -/

@[simp] theorem startsInWord_cons (c : Char) (rest : List Char) :
    startsInWord (c :: rest) = isWord c := rfl

@[simp] theorem endsInWord_concat (front : List Char) (c : Char) :
    endsInWord (front ++ [c]) = isWord c := by
  simp [endsInWord]

theorem endsInWord_append {front back : List Char} (h : back ≠ []) :
    endsInWord (front ++ back) = endsInWord back := by
  unfold endsInWord
  rw [List.getLast?_append_of_ne_nil _ h]

theorem startsInWord_append {front back : List Char} (h : front ≠ []) :
    startsInWord (front ++ back) = startsInWord front := by
  cases front with
  | nil => exact absurd rfl h
  | cons c rest => rfl

end Text

open Text

/-! ### Names -/

namespace Condition

theorem isName_iff {text : List Char} :
    isName text = true ↔ text ≠ [] ∧ ∀ c ∈ text, isWord c = true := by
  simp [isName, List.all_eq_true]

theorem startsInWord_of_isName {name : List Char} (h : isName name = true) :
    startsInWord name = true := by
  obtain ⟨ne, word⟩ := isName_iff.mp h
  cases name with
  | nil => exact absurd rfl ne
  | cons c rest => exact word c (by simp)

theorem endsInWord_of_isName {name : List Char} (h : isName name = true) :
    endsInWord name = true := by
  obtain ⟨ne, word⟩ := isName_iff.mp h
  rw [endsInWord, List.getLast?_eq_some_getLast ne]
  exact word _ (List.getLast_mem ne)

/-- What stands around a name is no part of it. -/
theorem standsIn_iff_of_isName {name text : List Char} (h : isName name = true) :
    StandsIn name text ↔ ∃ before after, text = before ++ name ++ after ∧
      endsInWord before = false ∧ startsInWord after = false := by
  have ne := (isName_iff.mp h).1
  have starts (after : List Char) : startsInWord (name ++ after) = true := by
    rw [startsInWord_append ne, startsInWord_of_isName h]
  have ends (before : List Char) : endsInWord (before ++ name) = true := by
    rw [endsInWord_append ne, endsInWord_of_isName h]
  constructor
  · rintro ⟨before, after, rfl, left, right⟩
    rw [Boundary, starts] at left
    rw [Boundary, ends] at right
    exact ⟨before, after, rfl, by simpa using left, by simpa using right⟩
  · rintro ⟨before, after, rfl, left, right⟩
    exact ⟨before, after, rfl, by simp [Boundary, starts, left], by simp [Boundary, ends, right]⟩

end Condition

theorem Connective.isName_keyword (op : Connective) :
    Condition.isName op.keyword.toList = true := by
  cases op <;> decide

/-! ### Pieces -/

namespace Token

open Condition (isName isName_iff startsInWord_of_isName endsInWord_of_isName)

theorem flatten_pieces (text : List Char) : (pieces text).flatten = text :=
  List.flatten_splitBy _ text

/-- **A text may be cut where no word goes across.** -/
theorem pieces_append {before after : List Char}
    (seam : endsInWord before = false ∨ startsInWord after = false) :
    pieces (before ++ after) = pieces before ++ pieces after := by
  refine List.splitBy_append fun x last y first => ?_
  rcases seam with ends | starts
  · have : isWord x = false := by simpa [endsInWord, Option.mem_def.mp last] using ends
    simp [this]
  · have : isWord y = false := by simpa [startsInWord, Option.mem_def.mp first] using starts
    simp [this]

theorem pieces_of_isName {name : List Char} (h : isName name = true) : pieces name = [name] := by
  obtain ⟨ne, word⟩ := isName_iff.mp h
  refine List.splitBy_of_isChain ne (List.Pairwise.isChain ?_)
  exact List.pairwise_of_forall_mem_list fun a ha b hb => by simp [word a ha, word b hb]

theorem pieces_name_append {name rest : List Char} (h : isName name = true)
    (starts : startsInWord rest = false) : pieces (name ++ rest) = name :: pieces rest := by
  rw [pieces_append (.inr starts), pieces_of_isName h, List.singleton_append]

/-- A character of no word is a piece for itself. -/
theorem pieces_append_cons {c : Char} (h : isWord c = false) (before after : List Char) :
    pieces (before ++ c :: after) = pieces before ++ [c] :: pieces after := by
  have single : pieces [c] = [[c]] := rfl
  rw [pieces_append (.inr (by simpa using h)), ← List.singleton_append,
    pieces_append (.inl (by simpa [endsInWord] using h)), single, List.singleton_append]

theorem singleton_mem_pieces_iff {c : Char} (h : isWord c = false) {text : List Char} :
    [c] ∈ pieces text ↔ c ∈ text := by
  constructor
  · intro mem
    rw [← flatten_pieces text]
    exact List.mem_flatten.mpr ⟨[c], mem, by simp⟩
  · intro mem
    obtain ⟨before, after, rfl⟩ := List.append_of_mem mem
    rw [pieces_append_cons h]
    simp

/-- **Where a text has been cut, no word goes across.** -/
theorem seam_of_pieces {text : List Char} {before after : List (List Char)}
    (cut : pieces text = before ++ after) :
    endsInWord before.flatten = false ∨ startsInWord after.flatten = false := by
  have chain := List.isChain_getLast_head_splitBy (fun a b => isWord a && isWord b) text
  rw [show text.splitBy _ = before ++ after from cut] at chain
  rcases List.eq_nil_or_concat before with rfl | ⟨front, piece, rfl⟩
  · exact .inl rfl
  · cases after with
    | nil => exact .inr rfl
    | cons next back =>
      rw [List.concat_eq_append, List.append_assoc, List.singleton_append,
        List.isChain_append_cons_cons] at chain
      obtain ⟨-, ⟨ne, ne', unrelated⟩, -⟩ := chain
      rw [List.concat_eq_append, List.flatten_concat, endsInWord_append ne, endsInWord,
        List.getLast?_eq_some_getLast ne, Option.any_some, List.flatten_cons,
        startsInWord_append ne', startsInWord, List.head?_eq_some_head ne', Option.any_some]
      exact Bool.and_eq_false_iff.mp unrelated

/-- The pieces on either side of a place are those of the text there. -/
theorem pieces_of_append {text : List Char} {before after : List (List Char)}
    (cut : pieces text = before ++ after) :
    pieces before.flatten = before ∧ pieces after.flatten = after := by
  obtain ⟨-, full, runs, seams⟩ := List.splitBy_eq_iff.mp cut
  rw [List.mem_append, not_or] at full
  exact ⟨List.splitBy_flatten full.1 (fun m mem => runs m (by simp [mem])) seams.left_of_append,
    List.splitBy_flatten full.2 (fun m mem => runs m (by simp [mem])) seams.right_of_append⟩

/-- **A name is a piece exactly if it stands in the text.** -/
theorem mem_pieces_iff_standsIn {name text : List Char} (h : isName name = true) :
    name ∈ pieces text ↔ StandsIn name text := by
  rw [Condition.standsIn_iff_of_isName h]
  constructor
  · intro mem
    obtain ⟨before, after, cut⟩ := List.append_of_mem mem
    have whole : text = before.flatten ++ name ++ after.flatten := by
      rw [← flatten_pieces text, cut]
      simp
    refine ⟨before.flatten, after.flatten, whole, ?_, ?_⟩
    · refine (seam_of_pieces cut).resolve_right ?_
      rw [List.flatten_cons, startsInWord_append (isName_iff.mp h).1, startsInWord_of_isName h]
      nofun
    · rw [List.append_cons] at cut
      refine (seam_of_pieces cut).resolve_left ?_
      rw [List.flatten_concat, endsInWord_append (isName_iff.mp h).1, endsInWord_of_isName h]
      nofun
  · rintro ⟨before, after, rfl, left, right⟩
    rw [List.append_assoc, pieces_append (.inl left), pieces_name_append h right]
    simp

/-! ### Texts without delimiters -/

theorem delimiter?_eq_none_iff {piece : List Char} :
    delimiter? piece = none ↔
      piece ≠ ['('] ∧ piece ≠ [')'] ∧ ∀ op : Connective, piece ≠ op.keyword.toList := by
  have word (op : Connective) :
      piece = op.keyword.toList ↔ Connective.ofKeyword? (String.ofList piece) = some op := by
    rw [Connective.ofKeyword?_eq_some_iff]
    constructor
    · rintro rfl
      exact String.ofList_toList
    · intro same
      rw [← same, String.toList_ofList]
  unfold delimiter?
  split
  · next same => simp [same]
  · split
    · next same => simp [same]
    · next notOpen notClose => simp [notOpen, notClose, word, Option.eq_none_iff_forall_ne_some]

/-- No piece of the text is a delimiter. -/
def Plain (text : List Char) : Prop := ∀ piece ∈ pieces text, delimiter? piece = none

/-- **A plain text has no parenthesis, and the word of no connective stands in it.** -/
theorem plain_iff {text : List Char} :
    Plain text ↔ '(' ∉ text ∧ ')' ∉ text ∧
      ∀ op : Connective, ¬ StandsIn op.keyword.toList text := by
  have opens : isWord '(' = false := by decide
  have closes : isWord ')' = false := by decide
  simp only [← singleton_mem_pieces_iff opens, ← singleton_mem_pieces_iff closes,
    ← mem_pieces_iff_standsIn (Connective.isName_keyword _), Plain, delimiter?_eq_none_iff]
  constructor
  · intro plain
    exact ⟨fun mem => (plain _ mem).1 rfl, fun mem => (plain _ mem).2.1 rfl,
      fun op mem => (plain _ mem).2.2 op rfl⟩
  · rintro ⟨noOpen, noClose, noWord⟩ piece mem
    refine ⟨?_, ?_, fun op => ?_⟩
    · rintro rfl
      exact noOpen mem
    · rintro rfl
      exact noClose mem
    · rintro rfl
      exact noWord op mem

theorem plain_append_iff {before after : List Char}
    (seam : endsInWord before = false ∨ startsInWord after = false) :
    Plain (before ++ after) ↔ Plain before ∧ Plain after := by
  simp only [Plain, pieces_append seam, List.mem_append]
  exact ⟨fun h => ⟨fun p mem => h p (.inl mem), fun p mem => h p (.inr mem)⟩,
    fun h p mem => mem.elim (h.1 p) (h.2 p)⟩

end Token
end Rulebook
