import Rulebook.Json.Shape

/-!
What the fields that have been read are like.

* `Json.Shape.Takes`: the values that a field takes.
* `Json.Shape.allTaken_of_readFields`: every value that has been read is one that its field takes.
-/

namespace Rulebook.Json.Shape

/-- The values that a field takes. -/
def Takes : Shape → Json → Prop
  | oneText, value => value = null ∨ ∃ s, value = string s
  | manyTexts, value => value = null ∨ ∃ texts : List String, value = array (texts.map string)
  | anything, _ => True

/-- Steps one after another succeed where each of them does. -/
theorem bind_eq_ok_iff {α β : Type} {first : Except Fault α} {next : α → Except Fault β} {b : β} :
    first >>= next = .ok b ↔ ∃ a, first = .ok a ∧ next a = .ok b := by
  cases first <;> simp [bind, Except.bind]

theorem map_eq_ok_iff {α β : Type} {found : Except Fault α} {f : α → β} {b : β} :
    found.map f = .ok b ↔ ∃ a, found = .ok a ∧ f a = b := by
  cases found <;> simp [Except.map]

/-! ### One value -/

theorem orMalformed_eq_ok_iff {α : Type} {found : Option α} {a : α} :
    orMalformed found = .ok a ↔ found = some a := by
  cases found <;> simp [orMalformed]

/-- What begins with an `n` and is no array and no object can only be null. -/
theorem eq_null_of_scalar? {rest after : List Char} {value : Json}
    (read : orMalformed (Reader.scalar? .keeping ('n' :: rest)) = .ok (value, after)) :
    value = null := by
  rw [orMalformed_eq_ok_iff, Reader.scalar?, Option.map_eq_some_iff] at read
  obtain ⟨_, -, same⟩ := read
  exact (congrArg Prod.fst same).symm

theorem exists_string_of_readText {text after : List Char} {value : Json}
    (read : readText text = .ok (value, after)) : ∃ s, value = string s := by
  unfold readText at read
  split at read
  · rw [orMalformed_eq_ok_iff, Option.map_eq_some_iff] at read
    obtain ⟨⟨s, rest⟩, -, same⟩ := read
    exact ⟨s, (congrArg Prod.fst same).symm⟩
  · cases read

theorem exists_strings_of_readTexts {fuel : Nat} {text after : List Char} {items : List Json}
    (read : readTexts fuel text = .ok (items, after)) :
    ∃ texts : List String, items = texts.map string := by
  induction fuel generalizing text after items with
  | zero => cases read
  | succ fuel ih =>
    obtain ⟨⟨item, rest⟩, first, read⟩ := bind_eq_ok_iff.mp read
    obtain ⟨s, rfl⟩ := exists_string_of_readText first
    dsimp only at read
    split at read
    · cases read
      exact ⟨[s], rfl⟩
    · split at read
      · cases read
      · obtain ⟨⟨others, rest⟩, behind, read⟩ := bind_eq_ok_iff.mp read
        obtain ⟨texts, rfl⟩ := ih behind
        cases read
        exact ⟨s :: texts, rfl⟩
    · cases read

/-- **What is read for a field is what the field takes.** -/
theorem takes_of_readField {depth : Nat} {shape : Shape} {text after : List Char} {value : Json}
    (read : readField depth shape text = .ok (value, after)) : shape.Takes value := by
  unfold readField at read
  split at read
  · trivial
  · exact .inl (eq_null_of_scalar? read)
  · exact .inr (exists_string_of_readText read)
  · exact .inl (eq_null_of_scalar? read)
  · split at read
    · cases read
      exact .inr ⟨[], rfl⟩
    · obtain ⟨⟨items, rest⟩, found, same⟩ := map_eq_ok_iff.mp read
      obtain ⟨texts, rfl⟩ := exists_strings_of_readTexts found
      cases same
      exact .inr ⟨texts, rfl⟩
  · cases read

/-! ### All fields -/

/-- Every value goes to a field that takes it. -/
def AllTaken (fields : List (String × Shape)) (values : List (String × Json)) : Prop :=
  ∀ name value, (name, value) ∈ values → ∃ shape, (name, shape) ∈ fields ∧ shape.Takes value

theorem allTaken_nil (fields : List (String × Shape)) : AllTaken fields [] := by
  intro name value mem
  cases mem

theorem AllTaken.cons {fields : List (String × Shape)} {values : List (String × Json)}
    (h : AllTaken fields values) {name : String} {shape : Shape} {value : Json}
    (field : (name, shape) ∈ fields) (takes : shape.Takes value) :
    AllTaken fields ((name, value) :: values) := by
  intro other found mem
  rcases List.mem_cons.mp mem with same | behind
  · cases same
    exact ⟨shape, field, takes⟩
  · exact h other found behind

theorem AllTaken.of_lookup {fields : List (String × Shape)} {values : List (String × Json)}
    (h : AllTaken fields values) {name : String} {value : Json}
    (found : values.lookup name = some value) :
    ∃ shape, (name, shape) ∈ fields ∧ shape.Takes value := by
  obtain ⟨_, _, split, -⟩ := List.lookup_eq_some_iff.mp found
  exact h name value (by rw [split]; simp)

theorem allTaken_of_readItems {depth : Nat} {fields part : List (String × Shape)} {first : Bool}
    {text after : List Char} {values : List (String × Json)} (sub : part ⊆ fields)
    (read : readItems depth part first text = .ok (values, after)) : AllTaken fields values := by
  induction part generalizing first text after values with
  | nil =>
    unfold readItems at read
    split at read
    · cases read
      exact allTaken_nil fields
    · cases read
  | cons field part ih =>
    obtain ⟨name, shape⟩ := field
    have here : (name, shape) ∈ fields := sub List.mem_cons_self
    -- Wherever the next item begins, it goes to the first field and the others to those behind it.
    have next {text after : List Char} {values : List (String × Json)}
        (read : (readField depth shape text >>= fun found =>
          readItems depth part false found.2 >>= fun others =>
            .ok ((name, found.1) :: others.1, others.2)) = .ok (values, after)) :
        AllTaken fields values := by
      obtain ⟨⟨value, rest⟩, first, read⟩ := bind_eq_ok_iff.mp read
      obtain ⟨⟨others, rest⟩, behind, read⟩ := bind_eq_ok_iff.mp read
      cases read
      have others := ih (List.subset_of_cons_subset sub) behind
      exact others.cons here (takes_of_readField first)
    unfold readItems at read
    dsimp only at read
    split at read
    · cases read
      exact allTaken_nil fields
    · split at read
      · exact next read
      · split at read
        · cases read
        · exact next read
    · split at read
      · exact next read
      · cases read

theorem allTaken_of_readMembers {depth fuel : Nat} {fields : List (String × Shape)}
    {seen values : List (String × Json)} {text after : List Char} (taken : AllTaken fields seen)
    (read : readMembers depth fields fuel seen text = .ok (values, after)) :
    AllTaken fields values := by
  induction fuel generalizing seen text with
  | zero => cases read
  | succ fuel ih =>
    obtain ⟨⟨name, rest⟩, -, read⟩ := bind_eq_ok_iff.mp read
    dsimp only at read
    split at read
    · next shape field =>
      split at read
      · cases read
      · obtain ⟨behind, -, read⟩ := bind_eq_ok_iff.mp read
        obtain ⟨⟨value, rest⟩, found, read⟩ := bind_eq_ok_iff.mp read
        have here : (name, shape) ∈ fields := by
          obtain ⟨_, _, split, -⟩ := List.lookup_eq_some_iff.mp field
          rw [split]
          simp
        have more := taken.cons here (takes_of_readField found)
        -- Behind a member the object ends, or the next member is read with what is there so far.
        obtain ⟨_, same, read⟩ := bind_eq_ok_iff.mp read
        cases same
        dsimp only at read
        split at read
        · cases read
          exact more
        · exact ih more read
        · cases read
    · obtain ⟨behind, -, read⟩ := bind_eq_ok_iff.mp read
      obtain ⟨⟨_, rest⟩, -, read⟩ := bind_eq_ok_iff.mp read
      obtain ⟨_, same, read⟩ := bind_eq_ok_iff.mp read
      cases same
      dsimp only at read
      split at read
      · cases read
        exact taken
      · exact ih taken read
      · cases read

/-- **Every value that has been read is one that its field takes.** -/
theorem allTaken_of_readFields {fields : List (String × Shape)} {text : List Char}
    {values : List (String × Json)} (read : readFields fields text = .ok values) :
    AllTaken fields values := by
  obtain ⟨⟨found, rest⟩, start, read⟩ := bind_eq_ok_iff.mp read
  dsimp only at read
  split at read
  · cases read
    unfold readFieldsThen at start
    dsimp only at start
    split at start
    · split at start
      · cases start
        exact allTaken_nil fields
      · exact allTaken_of_readMembers (allTaken_nil fields) start
    · exact allTaken_of_readItems (List.Subset.refl fields) start
    · cases start
  · cases read

end Rulebook.Json.Shape
