import Rulebook.Proofs.Combination
import Rulebook.Proofs.Grammar
import Rulebook.Proofs.RuleTree.Place

/-!
What a verdict says of a rule and some data.

A rule is applied by walking through it, and its truth value is defined without any walk. Both
agree, and all that a verdict tells can be told from the rule by its truth values: the conditions
that are met, and with a trace the truth value of every part.

* `met_walk`, `steps_walk`: what is kept on a walk, in terms of the places of a rule.
* `execute_agrees_with_holds`: when there is a verdict and when an error, and what they say.
* `verdict_tells_every_part`: the conditions that a verdict lists and the trace that it gives.
-/

namespace Rulebook

/-! ### Fields and keys -/

namespace Json

/-- The names of the members of a value; only objects have any. -/
def keys : Json → List String
  | object members => members.map (·.1)
  | _ => []

theorem isSome_lookupLast_iff {name : String} {members : List (String × Json)} :
    (lookupLast name members).isSome = true ↔ name ∈ members.map (·.1) := by
  induction members with
  | nil => simp [lookupLast]
  | cons member rest ih =>
    obtain ⟨key, value⟩ := member
    rw [lookupLast, List.map_cons, List.mem_cons, ← ih]
    cases lookupLast name rest with
    | none => by_cases same : name = key <;> simp [same, eq_comm (a := key)]
    | some other => simp

/-- Data have the fields that are keys of theirs. -/
theorem has_iff_mem_keys {data : Json} {name : String} :
    data.has name = true ↔ name ∈ data.keys := by
  cases data with
  | object members => exact isSome_lookupLast_iff
  | _ => simp [has, get?, keys]

end Json

theorem missing_eq_filter (data : Json) (fields : List String) :
    missing data fields = fields.filter fun name => name ∉ data.keys := by
  refine List.filter_congr fun name _ => ?_
  rw [Bool.eq_iff_iff, Bool.not_eq_true', decide_eq_true_eq, ← Json.has_iff_mem_keys,
    Bool.not_eq_true]

namespace RuleRecord

/-- A record with the tree and the fields of a text that has been read, or of a combination. -/
def Composed (record : RuleRecord) : Prop :=
  (∃ text parsed, ParsedRule.ofText? text = .ok parsed ∧ record.tree = parsed.tree ∧
    record.fields = parsed.fields) ∨
  ∃ sources draft, combine? sources = some draft ∧ record.tree = draft.tree ∧
    record.fields = draft.fields

/-- The fields of such a record are those of its conditions. -/
theorem Composed.fields_eq {record : RuleRecord} (composed : record.Composed) :
    record.fields = record.tree.fields := by
  rcases composed with ⟨text, parsed, read, tree, fields⟩ | ⟨sources, draft, joined, tree, fields⟩
  · rw [tree, fields]
    exact (ParsedRule.ofText?_eq_ok_iff.mp read).2
  · obtain ⟨_, _, -, -, same, -⟩ := eq_of_combine? joined
    rw [tree, fields, same]

end RuleRecord

/-! ### What is kept on a walk -/

/-- **The conditions that are met are kept, whatever they decide.** -/
theorem met_walk (traced : Bool) (data : Json) (place : Place) (t : RuleTree) :
    (walk traced data place t).met =
      (t.placedLeaves.filter fun x => (RuleTree.leaf x.2).holds data).map
        fun x => (place ++ x.1, x.2) := by
  induction t generalizing place with
  | leaf c =>
    simp only [walk, RuleTree.placedLeaves, RuleTree.holds, List.filter_cons, List.filter_nil]
    split
    · rw [List.map_singleton, List.append_nil]
    · rfl
  | node op left right ihl ihr =>
    simp only [walk, RuleTree.placedLeaves, ihl, ihr, List.filter_append, List.map_append,
      List.filter_map, List.map_map]
    simp [Function.comp_def]

theorem steps_walk_untraced (data : Json) (place : Place) (t : RuleTree) :
    (walk false data place t).steps = [] := by
  induction t generalizing place with
  | leaf c => rfl
  | node op left right ihl ihr => simp [walk, ihl, ihr]

/-- The line of the trace for a part at a place: its truth value, and those of its own parts. -/
def RuleTree.line (data : Json) (place : Place) : RuleTree → String
  | leaf c => place.toText ++ ": " ++ c.toText ++ " => " ++
      if (leaf c).holds data then "MATCHED" else "NOT_MATCHED"
  | node op left right =>
    place.toText ++ ": " ++ op.keyword ++ "(" ++ truthText (left.holds data) ++ ", " ++
      truthText (right.holds data) ++ ") => " ++ truthText ((node op left right).holds data)

/-- A line of the trace is that of a part of a rule, where the rule itself is at a place. -/
def RuleTree.HasLine (t : RuleTree) (data : Json) (place : Place) (line : String) (p : Place) :
    Prop :=
  ∃ part, t.at? p = some part ∧ line = part.line data (place ++ p)

/-- The lines of what stands behind a turn are lines of the whole. -/
theorem hasLine_turn {whole t : RuleTree} {data : Json} {place : Place} {side : Side}
    {lines : List String}
    (behind : List.Forall₂ (t.HasLine data (place ++ [side])) lines t.places)
    (turn : ∀ p, whole.at? (side :: p) = t.at? p) :
    List.Forall₂ (whole.HasLine data place) lines (t.places.map (side :: ·)) := by
  refine List.forall₂_map_right_iff.mpr (behind.imp ?_)
  rintro line p ⟨part, there, rfl⟩
  refine ⟨part, (turn p).trans there, ?_⟩
  rw [List.append_assoc]
  rfl

/-- **The steps are those of the parts, place by place.** -/
theorem steps_walk (data : Json) (place : Place) (t : RuleTree) :
    List.Forall₂ (t.HasLine data place) ((walk true data place t).steps.map Step.toText)
      t.places := by
  induction t generalizing place with
  | leaf c =>
    refine .cons ⟨_, RuleTree.at?_nil _, ?_⟩ .nil
    rw [List.append_nil]
    rfl
  | node op left right ihl ihr =>
    have onLeft := hasLine_turn (ihl (place ++ [.left])) (RuleTree.at?_left op left right)
    have onRight := hasLine_turn (ihr (place ++ [.right])) (RuleTree.at?_right op left right)
    simp only [walk, if_true, List.map_append]
    refine List.rel_append (List.rel_append onLeft onRight) (.cons ⟨_, RuleTree.at?_nil _, ?_⟩ .nil)
    rw [List.append_nil, Step.toText, walk_matched, walk_matched]
    rfl

/-! ### What a verdict tells -/

section Executing

variable {traced : Bool} {record : RuleRecord} {data : Json}

/-- The conditions that a verdict lists, by the rule alone. -/
theorem matchedConditions_of_execute {v : Verdict} (executed : execute traced record data = .ok v) :
    v.matchedConditions = (record.tree.placedLeaves.filter
      fun x => (RuleTree.leaf x.2).holds data).map fun x => x.1.toText ++ ": " ++ x.2.toText := by
  rw [(execute_eq_ok_iff.mp executed).2, met_walk, List.map_map]
  rfl

/-- What a verdict says about a rule and some data, its trace apart. -/
theorem execute_map_eq (other traced : Bool) (record : RuleRecord) (data : Json) :
    (execute other record data).map (fun v => (v.ruleId, v.matched, v.matchedConditions)) =
      (execute traced record data).map fun v => (v.ruleId, v.matched, v.matchedConditions) := by
  rw [execute_eq, execute_eq, met_walk, met_walk]
  split
  · rfl
  · rfl

/-- **Executing a rule agrees with its truth value, and no missing field passes.**

* There is an error exactly if the record requires a field that is no key of the data, and it lists
  those fields in the order of the record, as often as they stand there.
* Otherwise there is a verdict, under the id of the record and with the truth value of its rule.
* A trace changes none of this, nor the conditions that are listed as met.
* If the record has been composed from a text or from other records, a verdict means that the data
  have the field of every condition. -/
theorem execute_agrees_with_holds (traced : Bool) (record : RuleRecord) (data : Json) :
    ((∃ e, execute traced record data = .error e) ↔ ∃ name ∈ record.fields, name ∉ data.keys) ∧
    (∀ e, execute traced record data = .error e →
      e = .missingFields (record.fields.filter fun name => name ∉ data.keys) ∧
      e.message = "缺少必需属性: " ++
        ", ".intercalate (record.fields.filter fun name => name ∉ data.keys)) ∧
    ((∀ name ∈ record.fields, name ∈ data.keys) → ∃ v, execute traced record data = .ok v ∧
      v.ruleId = record.id ∧ v.matched = record.tree.holds data) ∧
    (∀ other,
      (execute other record data).map (fun v => (v.ruleId, v.matched, v.matchedConditions)) =
        (execute traced record data).map fun v => (v.ruleId, v.matched, v.matchedConditions)) ∧
    (record.Composed → ∀ v, execute traced record data = .ok v →
      ∀ c ∈ record.tree.leaves, c.field ∈ data.keys ∧ data.get? c.field ≠ none) := by
  have lacksNothing : missing data record.fields = [] ↔
      ∀ name ∈ record.fields, name ∈ data.keys := by
    simp only [missing_eq_nil_iff, Json.has_iff_mem_keys]
  refine ⟨?_, ?_, ?_, fun other => execute_map_eq other traced record data, ?_⟩
  · simp only [execute_eq_error_iff, ne_eq, lacksNothing, exists_and_left, exists_eq, and_true]
    push Not
    rfl
  · intro e failed
    obtain ⟨-, rfl⟩ := execute_eq_error_iff.mp failed
    rw [missing_eq_filter]
    exact ⟨rfl, rfl⟩
  · intro complete
    exact ⟨_, execute_eq_ok_iff.mpr ⟨lacksNothing.mpr complete, rfl⟩, rfl, rfl⟩
  · intro composed v executed c leaf
    have complete := lacksNothing.mp (exists_execute_eq_ok_iff.mp ⟨v, executed⟩)
    have key : c.field ∈ data.keys := by
      apply complete
      rw [composed.fields_eq, RuleTree.mem_fields_iff]
      exact ⟨c, leaf, rfl⟩
    refine ⟨key, ?_⟩
    have found := Json.has_iff_mem_keys.mpr key
    rw [Json.has, Option.isSome_iff_ne_none] at found
    exact found

/-- A rule that looks at one field twice. -/
def betweenAges : RuleRecord := .sample "age > 30 AND age < 60"

/-- A field that is required twice is listed twice, and one that is looked at twice is there. -/
theorem team_listed_twice :
    (∃ e, execute true { betweenAges with fields := ["team", "age", "team"] } onlyAge = .error e ∧
      e.message = "缺少必需属性: team, team") ∧
    betweenAges.Composed ∧ (∀ name ∈ betweenAges.fields, name ∈ onlyAge.keys) ∧
    ∃ v, execute true betweenAges onlyAge = .ok v ∧ v.matched = true ∧
      ∀ c ∈ betweenAges.tree.leaves, c.field ∈ onlyAge.keys ∧ onlyAge.get? c.field ≠ none := by
  constructor
  · obtain ⟨errs, lists, -⟩ := execute_agrees_with_holds true
      { betweenAges with fields := ["team", "age", "team"] } onlyAge
    obtain ⟨e, failed⟩ := errs.mpr ⟨"team", by decide, by decide⟩
    refine ⟨e, failed, ?_⟩
    rw [(lists e failed).2]
    decide +kernel
  · obtain ⟨-, -, passes, -, fields⟩ := execute_agrees_with_holds true betweenAges onlyAge
    have composed : betweenAges.Composed := .inl ⟨"age > 30 AND age < 60",
      ⟨.node .and (.leaf ⟨"age", .greater, "30"⟩) (.leaf ⟨"age", .less, "60"⟩), ["age"]⟩,
      by decide +kernel, by decide +kernel, by decide +kernel⟩
    have complete : ∀ name ∈ betweenAges.fields, name ∈ onlyAge.keys := by decide +kernel
    obtain ⟨v, executed, -, matched⟩ := passes complete
    refine ⟨composed, complete, v, executed, ?_, fields composed v executed⟩
    rw [matched]
    decide +kernel

/-- **A verdict tells the truth value of every part.** The parts of a rule are listed by their
places, from left to right and each behind those below it; every part has its place there, once, and
the texts of the places differ. A place goes on to the left or to the right, and so does its text.

* With a trace there is a line for each of them in this order, with the text of the place, the
  condition or the connective, and the truth values of the part and of its own parts; without one
  there is none.
* With a trace or without, the conditions that are met are listed from left to right with their
  places, whatever they decide. -/
theorem verdict_tells_every_part {v : Verdict} (executed : execute traced record data = .ok v) :
    let t := record.tree
    (∀ p, p ∈ t.places ↔ ∃ part, t.at? p = some part) ∧ (t.places.map Place.toText).Nodup ∧
    (∀ p op left right, t.at? p = some (.node op left right) →
      t.at? (p ++ [.left]) = some left ∧ t.at? (p ++ [.right]) = some right) ∧
    (Place.toText [] = "root" ∧ ∀ p : Place, Place.toText (p ++ [.left]) = p.toText ++ ".left" ∧
      Place.toText (p ++ [.right]) = p.toText ++ ".right") ∧
    (traced = true → List.Forall₂ (fun line p => ∃ part, t.at? p = some part ∧
      line = part.line data p) v.trace t.places) ∧
    (traced = false → v.trace = []) ∧
    v.matchedConditions = ((t.placedLeaves.filter fun x => (RuleTree.leaf x.2).holds data).map
      fun x => x.1.toText ++ ": " ++ x.2.toText) ∧
    t.placedLeaves.map (·.2) = t.leaves ∧
    ∀ p c, (p, c) ∈ t.placedLeaves ↔ t.at? p = some (.leaf c) := by
  intro t
  have trace : v.trace = (walk traced data [] t).steps.map Step.toText := by
    rw [(execute_eq_ok_iff.mp executed).2]
  refine ⟨fun p => RuleTree.mem_places_iff, t.nodup_places.map Place.toText_injective, ?_,
    ⟨rfl, fun p => ⟨Place.toText_concat p .left, Place.toText_concat p .right⟩⟩, ?_, ?_,
    matchedConditions_of_execute executed, t.map_snd_placedLeaves,
    fun p c => RuleTree.mem_placedLeaves_iff⟩
  · intro p op left right there
    rw [RuleTree.at?_append, RuleTree.at?_append, there]
    simp
  · rintro rfl
    rw [trace]
    exact steps_walk data [] t
  · rintro rfl
    rw [trace, steps_walk_untraced, List.map_nil]

/-- A rule that is met by its first condition alone, and looks at the same condition twice. -/
def undecidedBranch : RuleRecord := .sample "age > 30 OR (role = admin AND age > 30)"

/-- Data that meet only the condition that is given twice. -/
def guestOfForty : Json := .object [("age", .nat 40), ("role", .string "guest")]

/-- The verdict on them. -/
def guestVerdict : Verdict where
  ruleId := undecidedBranch.id
  matched := true
  matchedConditions := ["root.left: age > 30", "root.right.right: age > 30"]
  trace := ["root.left: age > 30 => MATCHED", "root.right.left: role = 'admin' => NOT_MATCHED",
    "root.right.right: age > 30 => MATCHED", "root.right: AND(false, true) => false",
    "root: OR(true, false) => true"]

/-- The branch that decides nothing is told as well, and its conditions have places of their own. -/
theorem undecidedBranch_told :
    execute true undecidedBranch guestOfForty = .ok guestVerdict ∧
    List.Forall₂ (fun line p => ∃ part, undecidedBranch.tree.at? p = some part ∧
      line = part.line guestOfForty p) guestVerdict.trace
        [[.left], [.right, .left], [.right, .right], [.right], []] ∧
    ∃ v, execute false undecidedBranch guestOfForty = .ok v ∧ v.trace = [] := by
  have executed : execute true undecidedBranch guestOfForty = .ok guestVerdict := by decide +kernel
  have untraced : execute false undecidedBranch guestOfForty =
      .ok { guestVerdict with trace := [] } := by
    decide +kernel
  obtain ⟨-, -, -, -, lines, -⟩ := verdict_tells_every_part executed
  obtain ⟨-, -, -, -, -, none, -⟩ := verdict_tells_every_part untraced
  exact ⟨executed, lines rfl, _, untraced, none rfl⟩

end Executing

end Rulebook
