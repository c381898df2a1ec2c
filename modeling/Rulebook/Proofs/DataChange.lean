import Rulebook.Proofs.Condition.Sight
import Rulebook.Proofs.Verdict

/-!
What becomes of a verdict when the data change.

The truth value of a rule is put together from those of its conditions, by connectives that never
turn a truth around. So the data matter as far as the conditions can see them, and data that meet
more conditions meet no fewer rules. Whether there is a verdict at all hangs on the keys that a
record requires and on nothing else.

* `RuleTree.value`: the truth value of a rule from those of its conditions.
* `RuleTree.value_congr`, `RuleTree.value_mono`: it depends on them alone, and grows with them.
* `only_own_fields_matter`: data that show the same in the fields of a rule are answered alike.
* `match_survives_addition`: what matches goes on matching when fields are added.
-/

namespace Rulebook

/-! ### Truth values from truth values -/

namespace RuleTree

/-- The truth value of a rule from those of its conditions. -/
def value (met : Condition → Bool) : RuleTree → Bool
  | leaf c => met c
  | node op left right => op.apply (left.value met) (right.value met)

theorem holds_eq_value (data : Json) (t : RuleTree) :
    t.holds data = t.value fun c => c.holds (data.get? c.field) := by
  induction t with
  | leaf c => rfl
  | node op left right ihl ihr => simp only [holds, value, ihl, ihr]

theorem value_congr {met other : Condition → Bool} {t : RuleTree}
    (same : ∀ c ∈ t.leaves, met c = other c) : t.value met = t.value other := by
  induction t with
  | leaf c => exact same c (by simp [leaves])
  | node op left right ihl ihr =>
    obtain ⟨onLeft, onRight⟩ := List.forall_mem_append.mp same
    simp only [value, ihl onLeft, ihr onRight]

/-- No connective turns a truth around. -/
theorem apply_mono {op : Connective} {left right left' right' : Bool}
    (onLeft : left = true → left' = true) (onRight : right = true → right' = true)
    (whole : op.apply left right = true) : op.apply left' right' = true := by
  cases op with
  | and =>
    rw [Connective.apply, Bool.and_eq_true] at whole ⊢
    exact ⟨onLeft whole.1, onRight whole.2⟩
  | or =>
    rw [Connective.apply, Bool.or_eq_true] at whole ⊢
    exact whole.imp onLeft onRight

/-- **Where no condition is lost, no truth is lost.** -/
theorem value_mono {met other : Condition → Bool} {t : RuleTree}
    (kept : ∀ c ∈ t.leaves, met c = true → other c = true) (whole : t.value met = true) :
    t.value other = true := by
  induction t with
  | leaf c => exact kept c (by simp [leaves]) whole
  | node op left right ihl ihr =>
    obtain ⟨onLeft, onRight⟩ := List.forall_mem_append.mp kept
    exact apply_mono (ihl onLeft) (ihr onRight) whole

end RuleTree

/-- A walk depends on the truth values of the conditions alone. -/
theorem walk_congr {traced : Bool} {data other : Json} {place : Place} {t : RuleTree}
    (same : ∀ c ∈ t.leaves, c.holds (data.get? c.field) = c.holds (other.get? c.field)) :
    walk traced data place t = walk traced other place t := by
  induction t generalizing place with
  | leaf c => simp only [walk, same c (by simp [RuleTree.leaves])]
  | node op left right ihl ihr =>
    obtain ⟨onLeft, onRight⟩ := List.forall_mem_append.mp same
    simp only [walk, ihl onLeft, ihr onRight]

theorem missing_congr {data other : Json} {fields : List String}
    (same : ∀ name ∈ fields, name ∈ data.keys ↔ name ∈ other.keys) :
    missing data fields = missing other fields := by
  rw [missing_eq_filter, missing_eq_filter]
  exact List.filter_congr fun name mem => decide_eq_decide.mpr (not_congr (same name mem))

/-! ### Data that are answered alike -/

namespace RuleRecord

/-- Data that a record cannot tell apart: its rule has the same truth value on both, and it gives
the same verdict or the same error, with a trace or without. -/
structure AnswersAlike (record : RuleRecord) (data other : Json) : Prop where
  holds : record.tree.holds data = record.tree.holds other
  execute : ∀ traced, execute traced record data = execute traced record other

variable {record : RuleRecord}

/-- **Data that show the same in the fields of a rule, and have the same of the keys that the record
requires, are answered alike.** -/
theorem answersAlike_of_sight {data other : Json}
    (seen : ∀ name ∈ record.tree.fields, Json.sight (data.get? name) = Json.sight (other.get? name))
    (had : ∀ name ∈ record.fields, name ∈ data.keys ↔ name ∈ other.keys) :
    record.AnswersAlike data other := by
  have same : ∀ c ∈ record.tree.leaves,
      c.holds (data.get? c.field) = c.holds (other.get? c.field) := fun c leaf =>
    Condition.holds_congr (seen c.field (RuleTree.mem_fields_iff.mpr ⟨c, leaf, rfl⟩))
  have holds : record.tree.holds data = record.tree.holds other := by
    rw [RuleTree.holds_eq_value, RuleTree.holds_eq_value]
    exact RuleTree.value_congr same
  refine ⟨holds, fun traced => ?_⟩
  rw [execute_eq, execute_eq, holds, walk_congr same, missing_congr had]

/-- What is found under the same names shows the same, and there are the same keys. -/
theorem answersAlike_of_get? {data other : Json}
    (same : ∀ name, name ∈ record.tree.fields ∨ name ∈ record.fields →
      data.get? name = other.get? name) : record.AnswersAlike data other := by
  refine answersAlike_of_sight (fun name field => by rw [same name (.inl field)]) ?_
  intro name required
  rw [← Json.has_iff_mem_keys, ← Json.has_iff_mem_keys, Json.has, Json.has,
    same name (.inr required)]

end RuleRecord

namespace Json

/-- A member is found among some as among all, if those of its name are there. -/
theorem lookupLast_filter {name : String} {kept : List String} (isKept : name ∈ kept)
    (members : List (String × Json)) :
    lookupLast name (members.filter fun m => m.1 ∈ kept) = lookupLast name members := by
  induction members with
  | nil => rfl
  | cons member rest ih =>
    obtain ⟨key, value⟩ := member
    by_cases there : key ∈ kept
    · simp only [List.filter_cons, there, decide_true, if_true, lookupLast, ih]
    · have differs : key ≠ name := by
        rintro rfl
        exact there isKept
      simp only [List.filter_cons, there, decide_false, Bool.false_eq_true, if_false, lookupLast, ih,
        differs]
      cases lookupLast name rest <;> rfl

/-- Members with names of their own are found wherever they stand. -/
theorem lookupLast_eq_some_iff {name : String} {value : Json} {members : List (String × Json)}
    (distinct : (members.map (·.1)).Nodup) :
    lookupLast name members = some value ↔ (name, value) ∈ members := by
  induction members with
  | nil => simp [lookupLast]
  | cons member rest ih =>
    obtain ⟨key, held⟩ := member
    obtain ⟨fresh, distinct⟩ := List.nodup_cons.mp distinct
    rw [lookupLast, List.mem_cons, ← ih distinct]
    by_cases same : key = name
    · subst same
      have absent : lookupLast key rest = none := by
        rw [← Option.not_isSome_iff_eq_none, isSome_lookupLast_iff]
        exact fresh
      simp [absent, eq_comm]
    · have differs : ¬(name, value) = (key, held) := fun eq => same (congrArg Prod.fst eq).symm
      rw [if_neg same]
      cases lookupLast name rest <;> simp [differs]

theorem lookupLast_perm {members others : List (String × Json)} (perm : members.Perm others)
    (distinct : (members.map (·.1)).Nodup) (name : String) :
    lookupLast name members = lookupLast name others := by
  have distinct' : (others.map (·.1)).Nodup := (perm.map _).nodup_iff.mp distinct
  refine Option.ext fun value => ?_
  rw [lookupLast_eq_some_iff distinct, lookupLast_eq_some_iff distinct', perm.mem_iff]

theorem get?_eq_none_iff {data : Json} {name : String} :
    data.get? name = none ↔ name ∉ data.keys := by
  rw [← has_iff_mem_keys, has, Option.not_isSome_iff_eq_none]

end Json

/-- **Nothing but its own fields matters to a rule.** A record answers two data alike, with the same
truth value and the same verdict or error, if the fields of its rule show the same in both and both
have the same of the keys that it requires; fields with the same value, or that are missing on both
sides, show the same. In particular it does not matter

* which members of other names there are, and where they stand;
* in which order the members stand, if they have names of their own;
* where nothing is required, whether data without the fields of the rule are an object. -/
theorem only_own_fields_matter (record : RuleRecord) :
    (∀ data other : Json,
      (∀ name ∈ record.tree.fields, Json.sight (data.get? name) = Json.sight (other.get? name)) →
      (∀ name ∈ record.fields, name ∈ data.keys ↔ name ∈ other.keys) →
      record.AnswersAlike data other) ∧
    (∀ members others : List (String × Json),
      members.filter (fun m => m.1 ∈ record.tree.fields ++ record.fields) =
        others.filter (fun m => m.1 ∈ record.tree.fields ++ record.fields) →
      record.AnswersAlike (.object members) (.object others)) ∧
    (∀ members others : List (String × Json), members.Perm others → (members.map (·.1)).Nodup →
      record.AnswersAlike (.object members) (.object others)) ∧
    (record.fields = [] → ∀ data other : Json, (∀ name ∈ record.tree.fields, name ∉ data.keys) →
      (∀ members, other ≠ .object members) → record.AnswersAlike data other) := by
  refine ⟨fun data other => RuleRecord.answersAlike_of_sight, ?_, ?_, ?_⟩
  · intro members others same
    refine RuleRecord.answersAlike_of_get? fun name needed => ?_
    have isKept : name ∈ record.tree.fields ++ record.fields := List.mem_append.mpr needed
    change Json.lookupLast name members = Json.lookupLast name others
    rw [← Json.lookupLast_filter isKept members, ← Json.lookupLast_filter isKept others, same]
  · intro members others perm distinct
    exact RuleRecord.answersAlike_of_get? fun name _ => Json.lookupLast_perm perm distinct name
  · intro none data other absent noObject
    refine RuleRecord.answersAlike_of_sight (fun name field => ?_) (by simp [none])
    have absent' : name ∉ other.keys := by
      rw [← Json.has_iff_mem_keys, Json.has_eq_false_of_not_object noObject]
      exact Bool.false_ne_true
    rw [Json.get?_eq_none_iff.mpr (absent name field), Json.get?_eq_none_iff.mpr absent']

/-- The same guest, with a remark on top and the age written as `40.0`. -/
def remarkedGuest : Json :=
  .object [("remark", .null), ("role", .string "guest"), ("age", .number ⟨⟨false, 400, -1⟩, false⟩)]

/-- Neither the remark nor the order nor the way the age is written changes the verdict. -/
theorem remarkedGuest_answered_alike :
    (∀ name ∈ undecidedBranch.tree.fields,
      Json.sight (guestOfForty.get? name) = Json.sight (remarkedGuest.get? name)) ∧
    (∀ name ∈ undecidedBranch.fields, name ∈ guestOfForty.keys ↔ name ∈ remarkedGuest.keys) ∧
    execute true undecidedBranch remarkedGuest = .ok guestVerdict := by
  have seen : ∀ name ∈ undecidedBranch.tree.fields,
      Json.sight (guestOfForty.get? name) = Json.sight (remarkedGuest.get? name) := by
    decide +kernel
  have had : ∀ name ∈ undecidedBranch.fields,
      name ∈ guestOfForty.keys ↔ name ∈ remarkedGuest.keys := by
    decide +kernel
  have executed : execute true undecidedBranch guestOfForty = .ok guestVerdict := by decide +kernel
  obtain ⟨alike, -⟩ := only_own_fields_matter undecidedBranch
  refine ⟨seen, had, ?_⟩
  rw [← (alike guestOfForty remarkedGuest seen had).execute, executed]

/-! ### Data that have more -/

/-- Data with all keys of other data, and values behind them that show the same. -/
def Json.Extends (more data : Json) : Prop :=
  ∀ name ∈ data.keys, name ∈ more.keys ∧ sight (more.get? name) = sight (data.get? name)

namespace Json.Extends

variable {more data : Json}

/-- Members of further names may stand anywhere. -/
theorem of_filter {members others : List (String × Json)}
    (among : others.filter (fun m => m.1 ∈ members.map (·.1)) = members) :
    (object others).Extends (object members) := by
  intro name mem
  have same : (object others).get? name = (object members).get? name := by
    change lookupLast name others = lookupLast name members
    rw [← lookupLast_filter mem others]
    exact congrArg _ among
  refine ⟨?_, congrArg sight same⟩
  rw [← has_iff_mem_keys, has, same]
  exact has_iff_mem_keys.mpr mem

/-- A field that is missing meets no condition, so what is met stays met. -/
theorem holds (extended : more.Extends data) {c : Condition}
    (met : c.holds (data.get? c.field) = true) : c.holds (more.get? c.field) = true := by
  have there : c.field ∈ data.keys := by
    by_contra absent
    rw [get?_eq_none_iff.mpr absent] at met
    cases met
  rwa [Condition.holds_congr (extended c.field there).2]

theorem missing_eq_nil (extended : more.Extends data) {fields : List String}
    (complete : missing data fields = []) : missing more fields = [] := by
  rw [missing_eq_nil_iff] at complete ⊢
  intro name required
  exact has_iff_mem_keys.mpr (extended name (has_iff_mem_keys.mp (complete name required))).1

end Json.Extends

/-- Where no condition is lost, the conditions that are listed stay in the list. -/
theorem met_walk_sublist {traced : Bool} {data other : Json} {t : RuleTree} (place : Place)
    (kept : ∀ c ∈ t.leaves, c.holds (data.get? c.field) = true →
      c.holds (other.get? c.field) = true) :
    ((walk traced data place t).met).Sublist (walk traced other place t).met := by
  induction t generalizing place with
  | leaf c =>
    have kept := kept c (by simp [RuleTree.leaves])
    simp only [walk]
    split
    · next met => simp [kept met]
    · exact List.nil_sublist _
  | node op left right ihl ihr =>
    obtain ⟨onLeft, onRight⟩ := List.forall_mem_append.mp kept
    exact (ihl _ onLeft).append (ihr _ onRight)

/-- **What matches goes on matching.** If every condition of a rule that some data meet is met by
other data as well, the others meet the rule if the former do. So a match is never lost by adding
fields: of data that have all that others have, a verdict is given where one is given on the others,
a match stays a match, and all the conditions that were listed are still listed. Data are extended
by members of further names, wherever these stand. -/
theorem match_survives_addition (t : RuleTree) (data more : Json) :
    ((∀ c ∈ t.leaves, (RuleTree.leaf c).holds data = true → (RuleTree.leaf c).holds more = true) →
      t.holds data = true → t.holds more = true) ∧
    (more.Extends data → t.holds data = true → t.holds more = true) ∧
    (more.Extends data → ∀ traced record v, record.tree = t → execute traced record data = .ok v →
      ∃ w, execute traced record more = .ok w ∧ (v.matched = true → w.matched = true) ∧
        v.matchedConditions.Sublist w.matchedConditions) ∧
    ∀ members others : List (String × Json),
      others.filter (fun m => m.1 ∈ members.map (·.1)) = members →
        (Json.object others).Extends (.object members) := by
  have survives (kept : ∀ c ∈ t.leaves, (RuleTree.leaf c).holds data = true →
      (RuleTree.leaf c).holds more = true) (whole : t.holds data = true) :
      t.holds more = true := by
    rw [RuleTree.holds_eq_value] at whole ⊢
    exact RuleTree.value_mono kept whole
  refine ⟨survives, fun extended => survives fun c _ => extended.holds, ?_,
    fun members others => Json.Extends.of_filter⟩
  rintro extended traced record v rfl executed
  obtain ⟨complete, rfl⟩ := execute_eq_ok_iff.mp executed
  refine ⟨_, execute_eq_ok_iff.mpr ⟨extended.missing_eq_nil complete, rfl⟩,
    survives fun c _ => extended.holds, ?_⟩
  exact (met_walk_sublist [] fun c _ => extended.holds).map _

/-- The guest after a while, with more known. -/
def grownGuest : List (String × Json) :=
  [("remark", .null), ("age", .nat 40), ("team", .array []), ("role", .string "guest")]

/-- The guest as an admin: one more condition is met. -/
def promotedGuest : Json := .object [("age", .nat 40), ("role", .string "admin")]

/-- A match stays a match when more becomes known, and when more conditions are met. -/
theorem guestOfForty_still_matches :
    grownGuest.filter (fun m => m.1 ∈ guestOfForty.keys) =
      [("age", .nat 40), ("role", .string "guest")] ∧
    execute false undecidedBranch guestOfForty = .ok { guestVerdict with trace := [] } ∧
    (∃ w, execute false undecidedBranch (.object grownGuest) = .ok w ∧ w.matched = true ∧
      guestVerdict.matchedConditions.Sublist w.matchedConditions) ∧
    (∀ c ∈ undecidedBranch.tree.leaves, (RuleTree.leaf c).holds guestOfForty = true →
      (RuleTree.leaf c).holds promotedGuest = true) ∧
    undecidedBranch.tree.holds guestOfForty = true ∧
    undecidedBranch.tree.holds promotedGuest = true := by
  have executed : execute false undecidedBranch guestOfForty =
      .ok { guestVerdict with trace := [] } := by
    decide +kernel
  have kept : ∀ c ∈ undecidedBranch.tree.leaves, (RuleTree.leaf c).holds guestOfForty = true →
      (RuleTree.leaf c).holds promotedGuest = true := by
    decide +kernel
  have whole : undecidedBranch.tree.holds guestOfForty = true := by decide +kernel
  obtain ⟨-, -, verdict, additions⟩ := match_survives_addition undecidedBranch.tree guestOfForty
    (.object grownGuest)
  obtain ⟨survives, -⟩ := match_survives_addition undecidedBranch.tree guestOfForty promotedGuest
  obtain ⟨w, executed', stays, listed⟩ :=
    verdict (additions _ _ rfl) false undecidedBranch _ rfl executed
  exact ⟨rfl, executed, ⟨w, executed', stays rfl, listed⟩, kept, whole, survives kept whole⟩

end Rulebook
