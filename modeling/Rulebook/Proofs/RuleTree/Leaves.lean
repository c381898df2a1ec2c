import Rulebook.Proofs.Execution
import Rulebook.Proofs.Grammar

/-!
The conditions and fields of a rule that has been read from tokens.

While tokens come in, conditions move between the current slot and the slots that wait around open
parentheses, and their fields are noted beside them. Neither loses anything: from the outermost slot
inwards the slots hold the conditions of all fragments so far in their order, and the fields are
those of these conditions.

* `Reading.leaves`: the conditions in the slots, from left to right.
* `Reading.InStep`: conditions and fields are those of the tokens so far; `InStep.feed` is its step.
* `ParsedRule.leaves_are_fragments`: what a rule has kept of its tokens, once all are in.
-/

namespace Rulebook

/-! ### Conditions and fragments -/

/-- The text of a fragment. -/
def Token.text? : Token → Option String
  | fragment text => some text
  | _ => none

/-- The texts of the fragments among some tokens, in order. -/
def Token.fragments (ts : List Token) : List String := ts.filterMap text?

/-- The fragments among some tokens are these conditions, one for one and in order. -/
def Token.FragmentsAre (ts : List Token) (cs : List Condition) : Prop :=
  List.Forall₂ (fun text c => Condition.ofText? text = .ok c) (fragments ts) cs

namespace Token.FragmentsAre

variable {ts us : List Token} {cs ds : List Condition}

theorem nil : FragmentsAre [] [] := List.Forall₂.nil

theorem append (first : FragmentsAre ts cs) (second : FragmentsAre us ds) :
    FragmentsAre (ts ++ us) (cs ++ ds) := by
  unfold FragmentsAre fragments
  rw [List.filterMap_append]
  exact List.rel_append first second

end Token.FragmentsAre

/-- Adds the fields of some conditions to a set, from the left. -/
def FieldSet.addAll (names : FieldSet) (cs : List Condition) : FieldSet :=
  cs.foldl (fun names c => names.insert c.field) names

theorem FieldSet.addAll_append (names : FieldSet) (cs ds : List Condition) :
    names.addAll (cs ++ ds) = (names.addAll cs).addAll ds :=
  List.foldl_append

/-- The fields of a rule are added condition by condition. -/
theorem RuleTree.addFields_eq_addAll (t : RuleTree) (names : FieldSet) :
    t.addFields names = names.addAll t.leaves := by
  induction t generalizing names with
  | leaf c => rfl
  | node op left right ihl ihr =>
    rw [addFields, leaves, FieldSet.addAll_append, ihl, ihr]

/-! ### Conditions in slots -/

/-- The conditions in a slot, from left to right. -/
def Slot.leaves : Slot → List Condition
  | empty => []
  | complete tree => tree.leaves
  | awaiting _ left => left.leaves

@[simp] theorem Slot.leaves_empty : Slot.empty.leaves = [] := rfl

@[simp] theorem Slot.leaves_complete (t : RuleTree) : (Slot.complete t).leaves = t.leaves := rfl

@[simp] theorem Slot.leaves_awaiting (op : Connective) (left : RuleTree) :
    (Slot.awaiting op left).leaves = left.leaves := rfl

/-- A rule hangs behind what is in a slot. -/
theorem Slot.leaves_of_fill {s after : Slot} {t : RuleTree} (filled : s.fill t = .ok after) :
    after.leaves = s.leaves ++ t.leaves := by
  cases s with
  | empty =>
    cases filled
    rfl
  | complete tree => cases filled
  | awaiting op left =>
    cases filled
    rfl

namespace Reading

/-- The conditions in the slots of a reading, from the outermost inwards. -/
def leaves (r : Reading) : List Condition := r.outer.reverse.flatMap Slot.leaves ++ r.current.leaves

/-- **What a token adds:** a fragment its condition behind all others, and the field of it; other
tokens nothing. -/
theorem leaves_of_feed {r next : Reading} {token : Token} (fed : r.feed token = .ok next) :
    ∃ added, Token.FragmentsAre [token] added ∧ next.leaves = r.leaves ++ added ∧
      next.fields = r.fields.addAll added := by
  cases feeds_of_feed fed with
  | openParen => exact ⟨[], .nil, by simp [leaves, openGroup], rfl⟩
  | closeParen filled =>
    -- The group was behind the slot around it, and now hangs in it.
    exact ⟨[], .nil, by simp [leaves, Slot.leaves_of_fill filled], rfl⟩
  | connective op => exact ⟨[], .nil, by simp [leaves], rfl⟩
  | @fragment outer current after fields text c read filled =>
    exact ⟨[c], .cons read .nil, by simp [leaves, Slot.leaves_of_fill filled, RuleTree.leaves], rfl⟩

/-- **Conditions and fields of a reading are those of the tokens that have been taken in.** -/
structure InStep (r : Reading) (ts : List Token) : Prop where
  fragments : Token.FragmentsAre ts r.leaves
  fields : r.fields = FieldSet.addAll [] r.leaves

theorem InStep.feed {r next : Reading} {ts : List Token} {token : Token} (h : r.InStep ts)
    (fed : r.feed token = .ok next) : next.InStep (ts ++ [token]) := by
  obtain ⟨added, fragment, held, noted⟩ := leaves_of_feed fed
  constructor
  · rw [held]
    exact h.fragments.append fragment
  · rw [noted, h.fields, held, FieldSet.addAll_append]

/-- However the groups nest, the slots stay in step with the tokens. -/
theorem inStep_of_feedAll {r : Reading} {ts : List Token} (fed : Reading.feedAll {} ts = .ok r) :
    r.InStep ts := by
  simpa using feedAll_induction (fun h fed => h.feed fed) (⟨.nil, rfl⟩ : InStep {} []) fed

end Reading

namespace ParsedRule

/-- **A rule has exactly the conditions of its fragments, and exactly their fields.** The fields that
were noted are those of the tree, in ascending order and without repeats; the conditions of the tree
are those of the fragments among the tokens, from left to right. -/
theorem leaves_are_fragments {ts : List Token} {p : ParsedRule} (h : ofTokens? ts = .ok p) :
    p.fields = p.tree.fields ∧ p.fields.Ascending ∧
    (∀ name, name ∈ p.fields ↔ ∃ c ∈ p.tree.leaves, c.field = name) ∧
    Token.FragmentsAre ts p.tree.leaves := by
  have inStep := Reading.inStep_of_feedAll (feedAll_of_ofTokens? h)
  have held : Reading.leaves ⟨[], .complete p.tree, p.fields⟩ = p.tree.leaves := by
    simp [Reading.leaves]
  have same : p.fields = p.tree.fields := by
    rw [RuleTree.fields, RuleTree.addFields_eq_addAll, ← held]
    exact inStep.fields
  refine ⟨same, ?_, ?_, ?_⟩
  · rw [same]
    exact p.tree.ascending_fields
  · intro name
    rw [same, RuleTree.mem_fields_iff]
  · rw [← held]
    exact inStep.fragments

/-- A group within a group, with a field that comes back and fields out of order. -/
def nestedGroups : List Token :=
  [.fragment "team = 'b'", .connective .and, .openParen, .openParen, .fragment "age > 30",
    .connective .or, .fragment "team=a", .closeParen, .connective .and, .fragment "age < 60",
    .closeParen]

/-- All four conditions are there in their order, with the two fields in theirs. -/
theorem nestedGroups_kept : ∃ p, ofTokens? nestedGroups = .ok p ∧ p.fields = ["age", "team"] ∧
    p.fields = p.tree.fields ∧ p.fields.Ascending ∧
    (∀ name, name ∈ p.fields ↔ ∃ c ∈ p.tree.leaves, c.field = name) ∧
    Token.FragmentsAre nestedGroups p.tree.leaves := by
  have read : ofTokens? nestedGroups = .ok ⟨.node .and (.leaf ⟨"team", .equal, "b"⟩)
      (.node .and (.node .or (.leaf ⟨"age", .greater, "30"⟩) (.leaf ⟨"team", .equal, "a"⟩))
        (.leaf ⟨"age", .less, "60"⟩)), ["age", "team"]⟩ := by
    decide +kernel
  exact ⟨_, read, rfl, leaves_are_fragments read⟩

end ParsedRule
end Rulebook
