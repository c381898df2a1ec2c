import Rulebook.Execution

/-!
What executing a rule comes to.

* `walk_matched`: walking through a rule gives the truth value of the rule.
* `mem_missing_iff`, `ascending_missing`: what data lack, as a list in the order of the fields.
* `execute_eq`: data that lack nothing get that truth value, other data the list of what they lack.
* `execute_eq_ok_iff`, `execute_eq_error_iff`, `matched_of_execute`: the same, one outcome at a
  time.
-/

namespace Rulebook

namespace RuleTree

theorem mem_fields_iff {t : RuleTree} {name : String} :
    name ∈ t.fields ↔ ∃ c ∈ t.leaves, c.field = name := by
  simp [fields, mem_addFields]

theorem ascending_fields (t : RuleTree) : t.fields.Ascending :=
  ascending_addFields List.Pairwise.nil

end RuleTree

/-- **Walking through a rule gives the truth value of the rule.** -/
theorem walk_matched (traced : Bool) (data : Json) (place : Place) (t : RuleTree) :
    (walk traced data place t).matched = t.holds data := by
  induction t generalizing place with
  | leaf c => rfl
  | node op left right ihl ihr => simp only [walk, RuleTree.holds, ihl, ihr]

/-! ### Missing fields -/

theorem mem_missing_iff {data : Json} {fields : List String} {name : String} :
    name ∈ missing data fields ↔ name ∈ fields ∧ data.has name = false := by
  simp [missing]

theorem missing_eq_nil_iff {data : Json} {fields : List String} :
    missing data fields = [] ↔ ∀ name ∈ fields, data.has name = true := by
  simp [missing]

theorem ascending_missing {data : Json} {fields : FieldSet} (h : fields.Ascending) :
    FieldSet.Ascending (missing data fields) :=
  List.Pairwise.filter _ h

/-- **Data that lack a required field get the list of those, others the truth value.** -/
theorem execute_eq (traced : Bool) (record : RuleRecord) (data : Json) :
    execute traced record data =
      if missing data record.fields = [] then
        .ok {
          ruleId := record.id
          matched := record.tree.holds data
          matchedConditions := (walk traced data [] record.tree).met.map fun (place, c) =>
            placedText place c
          trace := (walk traced data [] record.tree).steps.map Step.toText }
      else .error (.missingFields (missing data record.fields)) := by
  unfold execute require
  rw [← walk_matched traced data []]
  by_cases none : missing data record.fields = []
  · simp [none, bind, Except.bind]
  · simp [none, bind, Except.bind]

theorem execute_eq_ok_iff {traced : Bool} {record : RuleRecord} {data : Json} {v : Verdict} :
    execute traced record data = .ok v ↔ missing data record.fields = [] ∧ v = {
      ruleId := record.id
      matched := record.tree.holds data
      matchedConditions := (walk traced data [] record.tree).met.map fun (place, c) =>
        placedText place c
      trace := (walk traced data [] record.tree).steps.map Step.toText } := by
  rw [execute_eq]
  split
  · next complete => simp [complete, eq_comm]
  · next lacks => simp [lacks]

theorem exists_execute_eq_ok_iff {traced : Bool} {record : RuleRecord} {data : Json} :
    (∃ v, execute traced record data = .ok v) ↔ missing data record.fields = [] := by
  simp only [execute_eq_ok_iff, exists_and_left, exists_eq, and_true]

theorem execute_eq_error_iff {traced : Bool} {record : RuleRecord} {data : Json} {e : RuleError} :
    execute traced record data = .error e ↔
      missing data record.fields ≠ [] ∧ e = .missingFields (missing data record.fields) := by
  rw [execute_eq]
  split
  · next complete => simp [complete]
  · next lacks => simp [lacks, eq_comm]

theorem matched_of_execute {traced : Bool} {record : RuleRecord} {data : Json} {v : Verdict}
    (executed : execute traced record data = .ok v) : v.matched = record.tree.holds data := by
  rw [(execute_eq_ok_iff.mp executed).2]

/-- Only an object has fields. -/
theorem Json.has_eq_false_of_not_object {data : Json} (h : ∀ members, data ≠ .object members)
    (name : String) : data.has name = false := by
  cases data with
  | object members => exact absurd rfl (h members)
  | _ => rfl

end Rulebook
