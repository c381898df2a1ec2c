import Mathlib.Data.List.Sort
import Rulebook.Proofs.Execution
import Rulebook.Proofs.RuleTree.Refusal

/-!
What becomes of rules that are combined.

* `RuleRecord.holds_of_combine?`, `RuleRecord.mem_fields_of_combine?`: a combination holds where all
  of its sources hold, and looks at the fields that any of them looks at.
* `execute_of_combine?`: executing a combination comes to executing all of its sources.
* `RuleRecord.ofText?_text_of_combine?`: no text of a combination is the text of a rule.
-/

namespace Rulebook

namespace RuleTree

/-- **Joined rules hold where each of them holds.** -/
theorem holds_conjoin (data : Json) (first : RuleTree) (rest : List RuleTree) :
    (conjoin first rest).holds data = (first :: rest).all (·.holds data) := by
  -- What has been joined so far is the first rule of the rest, so the first rule is generalised.
  induction rest generalizing first with
  | nil => simp [conjoin]
  | cons next others ih =>
    have joined := ih (node .and first next)
    simp only [conjoin, List.foldl_cons, List.all_cons, holds, Connective.apply] at joined ⊢
    rw [joined, Bool.and_assoc]

/-- The conditions of joined rules are those of each, in their order. -/
theorem leaves_conjoin (first : RuleTree) (rest : List RuleTree) :
    (conjoin first rest).leaves = (first :: rest).flatMap leaves := by
  induction rest generalizing first with
  | nil => simp [conjoin]
  | cons next others ih =>
    have joined := ih (node .and first next)
    simp only [conjoin, List.foldl_cons, List.flatMap_cons, leaves] at joined ⊢
    rw [joined, List.append_assoc]

theorem mem_fields_conjoin {first : RuleTree} {rest : List RuleTree} {name : String} :
    name ∈ (conjoin first rest).fields ↔ ∃ t ∈ first :: rest, name ∈ t.fields := by
  simp only [mem_fields_iff, leaves_conjoin, List.mem_flatMap]
  constructor
  · rintro ⟨c, ⟨t, mem, leaf⟩, rfl⟩
    exact ⟨t, mem, c, leaf, rfl⟩
  · rintro ⟨t, mem, c, leaf, rfl⟩
    exact ⟨c, ⟨t, mem, leaf⟩, rfl⟩

end RuleTree

namespace RuleRecord

variable {records : List RuleRecord} {draft : RuleDraft}

/-- There is a combination of some records exactly if there is a record. -/
theorem exists_combine?_eq_some (some : records ≠ []) : ∃ draft, combine? records = .some draft := by
  cases records with
  | nil => exact absurd rfl some
  | cons first rest => exact ⟨_, rfl⟩

/-- The parts of a combination. -/
theorem eq_of_combine? (joined : combine? records = some draft) :
    ∃ first rest, records = first :: rest ∧
      draft.tree = .conjoin first.tree (rest.map (·.tree)) ∧ draft.fields = draft.tree.fields ∧
      draft.text = "Combined Rule: " ++ " + ".intercalate (records.map (·.text)) := by
  cases records with
  | nil => cases joined
  | cons first rest =>
    cases joined
    exact ⟨first, rest, rfl, rfl, rfl, rfl⟩

theorem holds_of_combine? (joined : combine? records = some draft) (data : Json) :
    draft.tree.holds data = records.all (·.tree.holds data) := by
  obtain ⟨first, rest, rfl, tree, -⟩ := eq_of_combine? joined
  rw [tree, RuleTree.holds_conjoin, List.all_cons, List.all_cons, List.all_map]
  rfl

theorem mem_fields_of_combine? (joined : combine? records = some draft) {name : String} :
    name ∈ draft.fields ↔ ∃ r ∈ records, name ∈ r.tree.fields := by
  obtain ⟨first, rest, rfl, tree, fields, -⟩ := eq_of_combine? joined
  rw [fields, tree, RuleTree.mem_fields_conjoin, ← List.map_cons]
  simp only [List.mem_map, exists_exists_and_eq_and]

theorem ascending_fields_of_combine? (joined : combine? records = some draft) :
    FieldSet.Ascending draft.fields := by
  obtain ⟨_, _, -, -, fields, -⟩ := eq_of_combine? joined
  rw [fields]
  exact draft.tree.ascending_fields

end RuleRecord

/-! ### The text of a combination -/

namespace Condition

/-- Where a name stands before something else than a sign, there is no condition. -/
theorem read?_eq_none_of_no_sign {name gap rest : List Char} {x : Char} (named : isName name = true)
    (blank : ∀ y ∈ gap, Text.isBlank y = true) (solid : Text.isBlank x = false)
    (ends : Text.startsInWord (gap ++ x :: rest) = false)
    (noSign : Comparison.ofSymbol? (String.singleton x) = none) :
    read? (name ++ (gap ++ x :: rest)) = none := by
  have behind : skipBlanks (gap ++ x :: rest) = x :: rest :=
    skipBlanks_append blank (by simpa using solid)
  unfold read?
  dsimp only
  rw [takeWhile_name_append named ends, dropWhile_name_append named ends, behind]
  simp [noSign]

end Condition

namespace RuleRecord

/-- The title of a combination and what follows it are trimmed at the end only. -/
theorem trim_title_append (text : List Char) :
    Text.trim ("Combined Rule: ".toList ++ text) =
      "Combined".toList ++ ([' '] ++ 'R' :: ("ule".toList ++ ':' :: Text.trimEnd (' ' :: text))) := by
  have title : "Combined Rule: ".toList ++ text = "Combined Rule".toList ++ ':' :: (' ' :: text) := by
    simp
  rw [title, Text.trim_of_startsInWord (by rfl), Text.trimEnd_append_cons (by decide)]
  simp

/-- **No text that begins like a combination is the text of a rule:** in what it is refused for, a
name stands before another word. -/
theorem ofText?_title_append (text : String) : ∃ fragment,
    ParsedRule.ofText? ("Combined Rule: " ++ text) = .error (.invalidCondition fragment) := by
  have plain : Token.Plain "Combined Rule: ".toList := by
    unfold Token.Plain
    decide +kernel
  have front : Token.front ("Combined Rule: " ++ text).toList =
      "Combined Rule: ".toList ++ Token.front text.toList := by
    rw [String.toList_append]
    exact Token.front_append_of_plain plain (.inl (by decide))
  refine ⟨_, ParsedRule.ofText?_of_front ?_ (Condition.ofText?_of_read?_eq_none ?_)⟩
  · rw [front, trim_title_append]
    simp
  · rw [front, trim_title_append]
    exact Condition.read?_eq_none_of_no_sign (by decide) Condition.printedGap (by decide) rfl
      (by decide)

theorem ofText?_text_of_combine? (joined : combine? records = some draft) :
    (∃ rest, draft.text = "Combined Rule: " ++ rest) ∧
      ∃ fragment, ParsedRule.ofText? draft.text = .error (.invalidCondition fragment) := by
  obtain ⟨_, _, -, -, -, text⟩ := eq_of_combine? joined
  rw [text]
  exact ⟨⟨_, rfl⟩, ofText?_title_append _⟩

end RuleRecord

/-! ### Executing a combination -/

theorem mem_missing_of_combine? {records : List RuleRecord} {draft : RuleDraft}
    (joined : RuleRecord.combine? records = some draft)
    (fields : ∀ r ∈ records, r.fields = r.tree.fields) {data : Json} {name : String} :
    name ∈ missing data draft.fields ↔ ∃ r ∈ records, name ∈ missing data r.fields := by
  simp only [mem_missing_iff, RuleRecord.mem_fields_of_combine? joined]
  constructor
  · rintro ⟨⟨r, mem, field⟩, absent⟩
    exact ⟨r, mem, fields r mem ▸ field, absent⟩
  · rintro ⟨r, mem, field, absent⟩
    exact ⟨⟨r, mem, fields r mem ▸ field⟩, absent⟩

section Executing

variable {records : List RuleRecord} {draft : RuleDraft} {traced : Bool} {data : Json}

theorem missing_of_combine?_eq_nil_iff (joined : RuleRecord.combine? records = some draft)
    (fields : ∀ r ∈ records, r.fields = r.tree.fields) :
    missing data draft.fields = [] ↔ ∀ r ∈ records, missing data r.fields = [] := by
  simp only [List.eq_nil_iff_forall_not_mem, mem_missing_of_combine? joined fields, not_exists,
    not_and]
  exact ⟨fun h r mem name => h name r mem, fun h name r mem => h r mem name⟩

/-- The truth value or the error that executing a combination comes to. -/
theorem execute_combination_map (joined : RuleRecord.combine? records = some draft) (id : String)
    (now : Instant) : (execute traced (draft.record id now) data).map (·.matched) =
      if missing data draft.fields = [] then .ok (records.all (·.tree.holds data))
      else .error (.missingFields (missing data draft.fields)) := by
  rw [execute_eq, ← RuleRecord.holds_of_combine? joined]
  change Except.map _ (if missing data draft.fields = [] then _ else _) = _
  split
  · rfl
  · rfl

/-- Combinations of the same records look at the same fields, in whatever order and however often
the records are given. -/
theorem fields_eq_of_combine? {others : List RuleRecord} {other : RuleDraft}
    (joined : RuleRecord.combine? records = some draft)
    (joined' : RuleRecord.combine? others = some other) (same : ∀ r, r ∈ others ↔ r ∈ records) :
    other.fields = draft.fields := by
  refine List.Pairwise.eq_of_mem_iff (RuleRecord.ascending_fields_of_combine? joined')
    (RuleRecord.ascending_fields_of_combine? joined) fun name => ?_
  rw [RuleRecord.mem_fields_of_combine? joined', RuleRecord.mem_fields_of_combine? joined]
  simp only [same]

/-- Sources that have verdicts lack nothing, and hold together where all verdicts say so. -/
theorem of_verdicts {verdicts : List Verdict}
    (executed : List.Forall₂ (fun r v => execute traced r data = .ok v) records verdicts) :
    (∀ r ∈ records, missing data r.fields = []) ∧
      records.all (·.tree.holds data) = verdicts.all (·.matched) := by
  induction executed with
  | nil => simp
  | cons first _ ih =>
    obtain ⟨complete, together⟩ := ih
    refine ⟨List.forall_mem_cons.mpr ⟨exists_execute_eq_ok_iff.mp ⟨_, first⟩, complete⟩, ?_⟩
    rw [List.all_cons, List.all_cons, together, matched_of_execute first]

/-- A combination lacks what its sources are refused for. -/
theorem mem_missing_iff_refused (joined : RuleRecord.combine? records = some draft)
    (fields : ∀ r ∈ records, r.fields = r.tree.fields) {name : String} :
    name ∈ missing data draft.fields ↔ ∃ r ∈ records, ∃ lacking,
      execute traced r data = .error (.missingFields lacking) ∧ name ∈ lacking := by
  rw [mem_missing_of_combine? joined fields]
  constructor
  · rintro ⟨r, mem, lacks⟩
    exact ⟨r, mem, _, execute_eq_error_iff.mpr ⟨List.ne_nil_of_mem lacks, rfl⟩, lacks⟩
  · rintro ⟨r, mem, lacking, failed, lacks⟩
    obtain ⟨-, same⟩ := execute_eq_error_iff.mp failed
    cases same
    exact ⟨r, mem, lacks⟩

/-- **Executing a combination comes to executing all of its sources,** if their fields are those of
their trees:

* it gives a verdict exactly if each of the sources does;
* its truth value is then that of all of theirs together;
* otherwise it lacks, in ascending order and without repeats, the fields that any of them lacks;
* neither the order of the sources nor repeats among them change its truth value or its error. -/
theorem execute_of_combine? (some : records ≠ [])
    (fields : ∀ r ∈ records, r.fields = r.tree.fields) (traced : Bool) (data : Json) :
    ∃ draft, RuleRecord.combine? records = .some draft ∧ ∀ id now,
      ((∃ v, execute traced (draft.record id now) data = .ok v) ↔
        ∀ r ∈ records, ∃ v, execute traced r data = .ok v) ∧
      (∀ verdicts, List.Forall₂ (fun r v => execute traced r data = .ok v) records verdicts →
        ∃ v, execute traced (draft.record id now) data = .ok v ∧
          v.matched = verdicts.all (·.matched)) ∧
      ((∃ r ∈ records, ∃ e, execute traced r data = .error e) → ∃ names : FieldSet,
        execute traced (draft.record id now) data = .error (.missingFields names) ∧
          names.Ascending ∧ ∀ name, name ∈ names ↔ ∃ r ∈ records, ∃ lacking,
            execute traced r data = .error (.missingFields lacking) ∧ name ∈ lacking) ∧
      ∀ others : List RuleRecord, (∀ r, r ∈ others ↔ r ∈ records) →
        ∃ other, RuleRecord.combine? others = .some other ∧ ∀ id' now',
          (execute traced (other.record id' now') data).map (·.matched) =
            (execute traced (draft.record id now) data).map (·.matched) := by
  obtain ⟨draft, joined⟩ := RuleRecord.exists_combine?_eq_some some
  have lacksNothing : missing data draft.fields = [] ↔ ∀ r ∈ records, missing data r.fields = [] :=
    missing_of_combine?_eq_nil_iff joined fields
  refine ⟨draft, joined, fun id now => ⟨?_, ?_, ?_, ?_⟩⟩
  · simp only [exists_execute_eq_ok_iff]
    exact lacksNothing
  · intro verdicts executed
    obtain ⟨complete, together⟩ := of_verdicts executed
    have passes : ∃ v, execute traced (draft.record id now) data = .ok v :=
      exists_execute_eq_ok_iff.mpr (lacksNothing.mpr complete)
    obtain ⟨v, verdict⟩ := passes
    refine ⟨v, verdict, ?_⟩
    rw [matched_of_execute verdict, ← together]
    exact RuleRecord.holds_of_combine? joined data
  · rintro ⟨r, mem, e, failed⟩
    have lacks : missing data draft.fields ≠ [] := fun nothing =>
      (execute_eq_error_iff.mp failed).1 (lacksNothing.mp nothing r mem)
    exact ⟨_, execute_eq_error_iff.mpr ⟨lacks, rfl⟩,
      ascending_missing (RuleRecord.ascending_fields_of_combine? joined),
      fun name => mem_missing_iff_refused joined fields⟩
  · intro others same
    -- The truth value and the missing fields ask only which sources there are.
    have some' : others ≠ [] := by
      obtain ⟨r, mem⟩ := List.exists_mem_of_ne_nil _ some
      exact List.ne_nil_of_mem ((same r).mpr mem)
    obtain ⟨other, joined'⟩ := RuleRecord.exists_combine?_eq_some some'
    refine ⟨other, joined', fun id' now' => ?_⟩
    have holds : others.all (·.tree.holds data) = records.all (·.tree.holds data) := by
      rw [Bool.eq_iff_iff]
      simp only [List.all_eq_true, same]
    rw [execute_combination_map joined', execute_combination_map joined,
      fields_eq_of_combine? joined joined' same, holds]

end Executing

/-- A record of the rule of a text. -/
def RuleRecord.sample (text : String) : RuleRecord :=
  match ParsedRule.ofText? text with
  | .ok parsed => (RuleDraft.ofParsed text parsed).record text default
  | .error _ => default

/-- Three rules, of which two share a field and one is given twice. -/
def sharedFields : List RuleRecord :=
  [.sample "team = core OR age > 30", .sample "role = admin AND age < 60",
    .sample "team = core OR age > 30"]

/-- Data that only have an age. -/
def onlyAge : Json := .object [("age", .nat 40)]

/-- What the sources lack is listed in order. -/
theorem sharedFields_lacking : sharedFields ≠ [] ∧
    (∀ r ∈ sharedFields, r.fields = r.tree.fields) ∧
    ∃ draft, RuleRecord.combine? sharedFields = some draft ∧ ∀ id now, ∃ names : FieldSet,
      execute true (draft.record id now) onlyAge = .error (.missingFields names) ∧
        names.Ascending ∧ "role" ∈ names ∧ "team" ∈ names := by
  have fields : ∀ r ∈ sharedFields, r.fields = r.tree.fields := by decide +kernel
  obtain ⟨draft, joined, outcomes⟩ := execute_of_combine? (by simp [sharedFields]) fields true onlyAge
  refine ⟨by simp [sharedFields], fields, draft, joined, fun id now => ?_⟩
  obtain ⟨-, -, refused, -⟩ := outcomes id now
  have first : execute true (.sample "team = core OR age > 30") onlyAge =
      .error (.missingFields ["team"]) := by
    decide +kernel
  have second : execute true (.sample "role = admin AND age < 60") onlyAge =
      .error (.missingFields ["role"]) := by
    decide +kernel
  obtain ⟨names, failed, ascending, members⟩ := refused ⟨_, by simp [sharedFields], _, first⟩
  refine ⟨names, failed, ascending, ?_, ?_⟩
  · exact (members "role").mpr ⟨_, by simp [sharedFields], _, second, by simp⟩
  · exact (members "team").mpr ⟨_, by simp [sharedFields], _, first, by simp⟩

end Rulebook
