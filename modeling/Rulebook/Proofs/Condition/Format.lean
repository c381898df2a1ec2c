import Mathlib.Data.List.TakeWhile
import Rulebook.Proofs.Token.Pieces

/-!
The texts that are conditions.

* `Spells`: how a value can stand in a condition.
* `Written`: how a condition can be written: a name, a sign and a value, with blanks between them.
* `value?_eq_some_iff`, `read?_eq_some_iff`: reading accepts exactly those texts, and gives back
  what was written.
-/

namespace Rulebook

open Text

/-- A sign is one character, neither blank nor of a word, and is read back. -/
theorem Comparison.exists_sign (c : Comparison) : ∃ sign, c.symbol.toList = [sign] ∧
    isWord sign = false ∧ isBlank sign = false ∧
      Comparison.ofSymbol? (String.singleton sign) = some c := by
  cases c with
  | greater => exact ⟨'>', by decide⟩
  | less => exact ⟨'<', by decide⟩
  | equal => exact ⟨'=', by decide⟩

namespace Condition

/-- `Spells value literal`: the characters of a value, and how they can stand in a condition:
between quotes if there is no quote among them, or bare if they are a word, or two words with a
point between them. -/
inductive Spells (value : List Char) : List Char → Prop where
  | quoted : '\'' ∉ value → Spells value ('\'' :: (value ++ ['\'']))
  | word : isName value = true → Spells value value
  | pointed {front back} : isName front = true → isName back = true →
      value = front ++ '.' :: back → Spells value value

/-- A name, a sign and a value, with gaps between them. -/
def layout (name gap : List Char) (c : Comparison) (gap' literal : List Char) : List Char :=
  name ++ (gap ++ (c.symbol.toList ++ (gap' ++ literal)))

/-- A text is a way to write a condition. -/
def Written (c : Condition) (text : List Char) : Prop :=
  ∃ gap gap' literal, text = layout c.field.toList gap c.comparison gap' literal ∧
    isName c.field.toList = true ∧ (∀ x ∈ gap, isBlank x = true) ∧
    (∀ x ∈ gap', isBlank x = true) ∧ Spells c.value.toList literal

/-! ### Values -/

theorem isWord_quote : isWord '\'' = false := by decide

theorem isWord_point : isWord '.' = false := by decide

/-- A bare value begins with a word character. -/
theorem Spells.eq_or_startsInWord {value literal : List Char} (h : Spells value literal) :
    (literal = '\'' :: (value ++ ['\'']) ∧ '\'' ∉ value) ∨
      (literal = value ∧ startsInWord value = true) := by
  cases h with
  | quoted noQuote => exact .inl ⟨rfl, noQuote⟩
  | word named => exact .inr ⟨rfl, startsInWord_of_isName named⟩
  | pointed frontName _ split =>
    subst split
    refine .inr ⟨rfl, ?_⟩
    rw [startsInWord_append (isName_iff.mp frontName).1, startsInWord_of_isName frontName]

/-- No quote is in a value. -/
theorem Spells.noQuote {value literal : List Char} (h : Spells value literal) :
    '\'' ∉ value := by
  have ofName {name : List Char} (named : isName name = true) : '\'' ∉ name := by
    intro mem
    have word := (isName_iff.mp named).2 _ mem
    rw [isWord_quote] at word
    cases word
  cases h with
  | quoted noQuote => exact noQuote
  | word named => exact ofName named
  | pointed frontName backName split =>
    rw [split, List.mem_append, List.mem_cons]
    rintro (mem | mem | mem)
    · exact ofName frontName mem
    · cases mem
    · exact ofName backName mem

/-- A run of characters of a class ends before the first character outside of it. -/
theorem takeWhile_append_of_head {p : Char → Bool} {run rest : List Char}
    (inside : ∀ x ∈ run, p x = true) (outside : ∀ x ∈ rest.head?, p x = false) :
    (run ++ rest).takeWhile p = run := by
  rw [List.takeWhile_append_of_pos inside]
  cases rest with
  | nil => simp
  | cons x rest => simp [outside x rfl]

/-- What follows a run of characters of a class begins with the first character outside of it. -/
theorem dropWhile_append_of_head {p : Char → Bool} {run rest : List Char}
    (inside : ∀ x ∈ run, p x = true) (outside : ∀ x ∈ rest.head?, p x = false) :
    (run ++ rest).dropWhile p = rest := by
  rw [List.dropWhile_append_of_pos inside]
  cases rest with
  | nil => rfl
  | cons x rest => simp [outside x rfl]

theorem startsInWord_eq_false_iff {text : List Char} :
    startsInWord text = false ↔ ∀ x ∈ text.head?, isWord x = false := by
  cases text <;> simp [startsInWord]

theorem takeWhile_name_append {name rest : List Char} (h : isName name = true)
    (starts : startsInWord rest = false) : (name ++ rest).takeWhile isWord = name :=
  takeWhile_append_of_head (isName_iff.mp h).2 (startsInWord_eq_false_iff.mp starts)

theorem dropWhile_name_append {name rest : List Char} (h : isName name = true)
    (starts : startsInWord rest = false) : (name ++ rest).dropWhile isWord = rest :=
  dropWhile_append_of_head (isName_iff.mp h).2 (startsInWord_eq_false_iff.mp starts)

/-- A name that stands before something else ends where the word characters end. -/
theorem isName_takeWhile {text : List Char} (h : text.takeWhile isWord ≠ []) :
    isName (text.takeWhile isWord) = true :=
  isName_iff.mpr ⟨h, fun _ mem => List.mem_takeWhile_imp mem⟩

theorem quotedValue?_eq_some_iff {text : List Char} {value : String} :
    quotedValue? text = some value ↔ text = value.toList ++ ['\''] ∧ '\'' ∉ value.toList := by
  unfold quotedValue?
  constructor
  · intro h
    split at h
    · next closing =>
      have front := String.toList_ofList (l := text.takeWhile (· != '\''))
      rw [Option.some.inj h] at front
      rw [front, ← closing, List.takeWhile_append_dropWhile]
      refine ⟨rfl, fun mem => ?_⟩
      have := List.mem_takeWhile_imp mem
      simp at this
    · cases h
  · rintro ⟨rfl, noQuote⟩
    have inside : ∀ c ∈ value.toList, (c != '\'') = true := by
      intro c mem
      simp only [bne_iff_ne, ne_eq]
      rintro rfl
      exact noQuote mem
    rw [List.takeWhile_append_of_pos inside, List.dropWhile_append_of_pos inside]
    simp

theorem bareValue?_eq_some_iff {text : List Char} {value : String} :
    bareValue? text = some value ↔ text = value.toList ∧ (isName text = true ∨
      ∃ front back, isName front = true ∧ isName back = true ∧ text = front ++ '.' :: back) := by
  have cut : text.takeWhile isWord ++ text.dropWhile isWord = text :=
    List.takeWhile_append_dropWhile
  have same : some (String.ofList text) = some value ↔ text = value.toList := by
    rw [Option.some.injEq]
    constructor
    · rintro rfl
      exact String.toList_ofList.symm
    · rintro rfl
      exact String.ofList_toList
  unfold bareValue?
  dsimp only
  constructor
  · intro h
    split at h
    · next nothing =>
      split at h
      · next named =>
        rw [nothing, List.append_nil] at cut
        rw [cut] at named
        exact ⟨same.mp h, .inl named⟩
      · cases h
    · next back behind =>
      split at h
      · next named =>
        rw [Bool.and_eq_true] at named
        rw [behind] at cut
        exact ⟨same.mp h, .inr ⟨_, back, named.1, named.2, cut.symm⟩⟩
      · cases h
    · cases h
  · rintro ⟨isValue, named | ⟨front, back, frontName, backName, rfl⟩⟩
    · have whole : (text ++ []).takeWhile isWord = text := takeWhile_name_append named rfl
      have nothing : (text ++ []).dropWhile isWord = [] := dropWhile_name_append named rfl
      rw [List.append_nil] at whole nothing
      simp only [nothing, whole, named, if_true]
      exact same.mpr isValue
    · have stop : startsInWord ('.' :: back) = false := isWord_point
      simp only [takeWhile_name_append frontName stop, dropWhile_name_append frontName stop,
        frontName, backName, Bool.and_self, if_true]
      exact same.mpr isValue

/-- **A value is read exactly from the ways to spell it.** -/
theorem value?_eq_some_iff {literal : List Char} {value : String} :
    value? literal = some value ↔ Spells value.toList literal := by
  unfold value?
  split
  · next rest =>
    rw [quotedValue?_eq_some_iff]
    constructor
    · rintro ⟨rfl, noQuote⟩
      exact .quoted noQuote
    · intro h
      rcases h.eq_or_startsInWord with ⟨same, noQuote⟩ | ⟨same, starts⟩
      · exact ⟨(List.cons.inj same).2, noQuote⟩
      · rw [← same, startsInWord_cons, isWord_quote] at starts
        cases starts
  · next text notQuote =>
    rw [bareValue?_eq_some_iff]
    constructor
    · rintro ⟨rfl, named | ⟨front, back, frontName, backName, split⟩⟩
      · exact .word named
      · exact .pointed frontName backName split
    · intro h
      cases h with
      | quoted noQuote => exact absurd rfl (notQuote _)
      | word named => exact ⟨rfl, .inl named⟩
      | pointed frontName backName split => exact ⟨rfl, .inr ⟨_, _, frontName, backName, split⟩⟩

/-! ### Conditions -/

theorem skipBlanks_append {gap rest : List Char} (blank : ∀ x ∈ gap, isBlank x = true)
    (solid : ∀ x ∈ rest.head?, isBlank x = false) : skipBlanks (gap ++ rest) = rest :=
  dropWhile_append_of_head blank solid

theorem exists_skipBlanks (text : List Char) : ∃ gap, (∀ x ∈ gap, isBlank x = true) ∧
    text = gap ++ skipBlanks text :=
  ⟨text.takeWhile isBlank, fun _ mem => List.mem_takeWhile_imp mem,
    List.takeWhile_append_dropWhile.symm⟩

/-- No value begins with a blank. -/
theorem Spells.head_solid {value literal : List Char} (h : Spells value literal) :
    ∀ x ∈ literal.head?, isBlank x = false := by
  intro x first
  rcases h.eq_or_startsInWord with ⟨rfl, -⟩ | ⟨rfl, starts⟩
  · cases first
    decide
  · cases literal with
    | nil => cases first
    | cons y rest =>
      cases first
      by_contra blank
      rw [startsInWord_cons, isWord_eq_false_of_isBlank (by simpa using blank)] at starts
      cases starts

/-- What follows the name in a layout is no part of it. -/
theorem startsInWord_behind_name {gap gap' literal : List Char} (c : Comparison)
    (blank : ∀ x ∈ gap, isBlank x = true) :
    startsInWord (gap ++ (c.symbol.toList ++ (gap' ++ literal))) = false := by
  obtain ⟨sign, symbol, noWord, -⟩ := c.exists_sign
  rw [symbol]
  cases gap with
  | nil => exact noWord
  | cons x gap => exact isWord_eq_false_of_isBlank (blank x (by simp))

/-- The parts of a layout are found where they stand. -/
theorem read?_layout {name gap gap' literal : List Char} {c : Comparison}
    (named : isName name = true) (blank : ∀ x ∈ gap, isBlank x = true)
    (blank' : ∀ x ∈ gap', isBlank x = true) (solid : ∀ x ∈ literal.head?, isBlank x = false) :
    read? (layout name gap c gap' literal) =
      (value? literal).map fun value => ⟨String.ofList name, c, value⟩ := by
  have stop : startsInWord (gap ++ (c.symbol.toList ++ (gap' ++ literal))) = false :=
    startsInWord_behind_name c blank
  unfold read? layout
  dsimp only
  rw [takeWhile_name_append named stop, dropWhile_name_append named stop]
  obtain ⟨sign, symbol, -, solidSign, known⟩ := c.exists_sign
  have signFirst : skipBlanks (gap ++ sign :: (gap' ++ literal)) = sign :: (gap' ++ literal) :=
    skipBlanks_append blank (by simpa using solidSign)
  rw [symbol, List.singleton_append, signFirst]
  have full : name.isEmpty = false := by simpa using (isName_iff.mp named).1
  simp only [known, skipBlanks_append blank' solid, full, Option.bind_eq_bind, Option.bind_some]
  cases value? literal <;> rfl

/-- **A condition is read exactly from the ways to write it.** -/
theorem read?_eq_some_iff {text : List Char} {c : Condition} :
    read? text = some c ↔ Written c text := by
  constructor
  · intro h
    have cut : text.takeWhile isWord ++ text.dropWhile isWord = text :=
      List.takeWhile_append_dropWhile
    obtain ⟨gap, blank, behind⟩ := exists_skipBlanks (text.dropWhile isWord)
    unfold read? at h
    dsimp only at h
    split at h
    · next sign rest skipped =>
      rw [skipped] at behind
      obtain ⟨comparison, known, h⟩ := Option.bind_eq_some_iff.mp h
      obtain ⟨value, read, h⟩ := Option.bind_eq_some_iff.mp h
      split at h
      · cases h
      · next full =>
        cases h
        obtain ⟨gap', blank', rest'⟩ := exists_skipBlanks rest
        have symbol : comparison.symbol.toList = [sign] := by
          rw [← Comparison.ofSymbol?_eq_some_iff.mp known, String.toList_singleton]
        refine ⟨gap, gap', skipBlanks rest, ?_, ?_, blank, blank', value?_eq_some_iff.mp read⟩
        · rw [layout, String.toList_ofList, symbol, ← rest', List.singleton_append, ← behind, cut]
        · rw [String.toList_ofList]
          exact isName_takeWhile (by simpa using full)
    · cases h
  · rintro ⟨gap, gap', literal, rfl, named, blank, blank', spells⟩
    rw [read?_layout named blank blank' spells.head_solid, value?_eq_some_iff.mpr spells]
    simp

/-- **A fragment is a condition exactly if it is written as one.** -/
theorem ofText?_eq_ok_iff {fragment : String} {c : Condition} :
    ofText? fragment = .ok c ↔ Written c fragment.toList := by
  rw [← read?_eq_some_iff]
  unfold ofText?
  cases read? fragment.toList <;> simp

end Condition
end Rulebook
