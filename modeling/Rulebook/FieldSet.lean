/-!
Sets of field names, listed in ascending order of their code points and without repeats.

* `FieldSet.insert`: adds a name in its place.
* `FieldSet.mem_insert`, `FieldSet.ascending_insert`: what that does to the members and the order.
-/

namespace Rulebook

/-- Field names in ascending order. -/
abbrev FieldSet := List String

namespace FieldSet

/-- Adds a name in its place, unless it is there already. -/
def insert (name : String) : FieldSet → FieldSet
  | [] => [name]
  | first :: rest =>
    if name < first then name :: first :: rest
    else if name = first then first :: rest
    else first :: insert name rest

/-- In ascending order, so without repeats. -/
def Ascending (names : FieldSet) : Prop := names.Pairwise (· < ·)

theorem mem_insert {name x : String} {names : FieldSet} :
    x ∈ insert name names ↔ x = name ∨ x ∈ names := by
  induction names with
  | nil => simp [insert]
  | cons first rest ih =>
    unfold insert
    split
    · simp
    · split
      · next h => subst h; simp
      · simp only [List.mem_cons, ih]
        exact or_left_comm

theorem ascending_insert {name : String} {names : FieldSet} (h : Ascending names) :
    Ascending (insert name names) := by
  induction names with
  | nil => simp [insert, Ascending]
  | cons first rest ih =>
    have head : ∀ x ∈ rest, first < x := fun x mem => List.rel_of_pairwise_cons h mem
    have tail := ih (List.Pairwise.of_cons h)
    unfold insert
    split
    · next lt =>
      refine List.Pairwise.cons (fun x mem => ?_) h
      rcases List.mem_cons.mp mem with rfl | mem
      · exact lt
      · exact String.lt_trans lt (head x mem)
    · split
      · exact h
      · next notLt ne =>
        refine List.Pairwise.cons (fun x mem => ?_) tail
        rcases mem_insert.mp mem with rfl | mem
        · exact Std.lt_of_le_of_ne (String.not_lt.mp notLt) (Ne.symm ne)
        · exact head x mem

end FieldSet
end Rulebook
