import Rulebook.Proofs.Combination

/-!
Rules that are joined in their texts.

Between parentheses the text of a rule keeps its tokens and is one part of whatever it stands in. So
texts of rules can be joined to one text without a look at what they say, and the rule of that text
is the one that joins their trees.

* `Clause`, `Chain`: texts with their rules, and such texts with connectives between them.
* `Clause.derives_grouped`: a text between parentheses is a part of its own.
* `Chain.derives_toText`: the tokens of a chain derive the trees of its clauses, joined from the
  left.
* `Chain.ofText?_toText_chain`: a chain is read as that tree; where all connectives are AND, that is
  what combining the records of the clauses gives.
-/

namespace Rulebook

/-- A text and the rule that it is to be read as. -/
structure Clause where
  text : String
  rule : ParsedRule
  deriving DecidableEq, Repr

/-- The text of a clause between parentheses. -/
def Clause.grouped (clause : Clause) : String := "(" ++ clause.text ++ ")"

/-- The text and the rule of a record. -/
def RuleRecord.clause (record : RuleRecord) : Clause := ⟨record.text, ⟨record.tree, record.fields⟩⟩

/-- Clauses with connectives between them. -/
structure Chain where
  first : Clause
  rest : List (Connective × Clause)

namespace Chain

/-- The clauses from left to right. -/
def clauses (chain : Chain) : List Clause := chain.first :: chain.rest.map (·.2)

/-- The text of a chain, with every clause between parentheses. -/
def toText (chain : Chain) : String :=
  chain.rest.foldl (fun text (op, clause) => text ++ " " ++ op.keyword ++ " " ++ clause.grouped)
    chain.first.grouped

/-- The trees of the clauses, joined from the left. -/
def tree (chain : Chain) : RuleTree :=
  chain.rest.foldl (fun left (op, clause) => .node op left clause.rule.tree) chain.first.rule.tree

/-! ### One clause more -/

section Concat

variable (first : Clause) (rest : List (Connective × Clause)) (op : Connective) (last : Clause)

theorem toText_concat : (Chain.mk first (rest ++ [(op, last)])).toText =
    (Chain.mk first rest).toText ++ " " ++ op.keyword ++ " " ++ last.grouped := by
  simp [toText]

theorem tree_concat : (Chain.mk first (rest ++ [(op, last)])).tree =
    .node op (Chain.mk first rest).tree last.rule.tree := by
  simp [tree]

theorem clauses_concat : (Chain.mk first (rest ++ [(op, last)])).clauses =
    (Chain.mk first rest).clauses ++ [last] := by
  simp [clauses]

end Concat

end Chain

/-! ### The tokens of a chain -/

/-- **A text between parentheses is a part of its own.** -/
theorem Clause.derives_grouped {clause : Clause}
    (h : Derives .expr (Token.scan clause.text.toList) clause.rule.tree) :
    Derives .term (Token.scan clause.grouped.toList) clause.rule.tree := by
  have whole : clause.grouped.toList = [] ++ '(' :: (clause.text.toList ++ ')' :: []) := by
    simp [grouped]
  rw [whole, Token.scan_append_openParen, Token.scan_append_closeParen]
  exact .group h

namespace Chain

/-- The word between two clauses stands for itself: a blank is on both of its sides. -/
theorem scan_joined (before after : List Char) (op : Connective) :
    Token.scan (before ++ [' '] ++ op.keyword.toList ++ ' ' :: after) =
      Token.scan before ++ .connective op :: Token.scan after := by
  have blank : Text.isBlank ' ' = true := by decide
  have left : Text.endsInWord (before ++ [' ']) = false := by
    rw [Text.endsInWord_concat]
    decide
  have right : Text.startsInWord (' ' :: after) = false := by
    rw [Text.startsInWord_cons]
    decide
  rw [Token.scan_append_keyword op left right, Token.scan_concat_blank blank,
    Token.scan_cons_blank blank]

/-- **The tokens of a chain derive the trees of its clauses, joined from the left.** -/
theorem derives_toText {chain : Chain}
    (h : ∀ clause ∈ chain.clauses, Derives .expr (Token.scan clause.text.toList) clause.rule.tree) :
    Derives .expr (Token.scan chain.toText.toList) chain.tree := by
  obtain ⟨first, rest⟩ := chain
  -- A chain grows at its end, as expressions do.
  induction rest using List.reverseRecOn with
  | nil => exact .single (Clause.derives_grouped (h first (by simp [clauses])))
  | append_singleton rest link ih =>
    obtain ⟨op, last⟩ := link
    rw [clauses_concat] at h
    have left := ih fun clause mem => h clause (List.mem_append_left _ mem)
    have right := Clause.derives_grouped (h last (by simp))
    have whole : (Chain.mk first (rest ++ [(op, last)])).toText.toList =
        (Chain.mk first rest).toText.toList ++ [' '] ++ op.keyword.toList ++
          ' ' :: last.grouped.toList := by
      simp [toText_concat]
    rw [whole, scan_joined, tree_concat]
    exact .join left right

/-! ### The rule of a chain -/

/-- The conditions of a chain are those of its clauses, in their order. -/
theorem leaves_tree (chain : Chain) :
    chain.tree.leaves = chain.clauses.flatMap (·.rule.tree.leaves) := by
  obtain ⟨first, rest⟩ := chain
  induction rest using List.reverseRecOn with
  | nil => simp [tree, clauses]
  | append_singleton rest link ih =>
    obtain ⟨op, last⟩ := link
    rw [tree_concat, clauses_concat, RuleTree.leaves, ih, List.flatMap_append]
    simp

theorem mem_fields_tree {chain : Chain} {name : String} :
    name ∈ chain.tree.fields ↔ ∃ clause ∈ chain.clauses, name ∈ clause.rule.tree.fields := by
  simp only [RuleTree.mem_fields_iff, leaves_tree, List.mem_flatMap]
  constructor
  · rintro ⟨c, ⟨clause, mem, leaf⟩, rfl⟩
    exact ⟨clause, mem, c, leaf, rfl⟩
  · rintro ⟨clause, mem, c, leaf, rfl⟩
    exact ⟨c, ⟨clause, mem, leaf⟩, rfl⟩

/-- Where all connectives are AND, the clauses are conjoined. -/
theorem tree_of_and {chain : Chain} (conjoined : ∀ link ∈ chain.rest, link.1 = .and) :
    RuleTree.conjoin? (chain.clauses.map (·.rule.tree)) = some chain.tree := by
  obtain ⟨first, rest⟩ := chain
  have joined : rest.foldl (fun left link => RuleTree.node .and left link.2.rule.tree)
      first.rule.tree = (Chain.mk first rest).tree := by
    refine List.foldl_ext _ _ _ fun left link mem => ?_
    have op : link.1 = .and := conjoined link mem
    rw [← op]
  rw [← joined, clauses, List.map_cons, List.map_map, RuleTree.conjoin?, RuleTree.conjoin,
    List.foldl_map]
  rfl

/-- The combination of records whose clauses a chain conjoins. -/
theorem combine?_of_and {chain : Chain} (conjoined : ∀ link ∈ chain.rest, link.1 = .and)
    {records : List RuleRecord} (kept : records.map (·.clause) = chain.clauses) :
    ∃ draft, RuleRecord.combine? records = some draft ∧ draft.tree = chain.tree ∧
      draft.fields = chain.tree.fields := by
  have trees : records.map (·.tree) = chain.clauses.map (·.rule.tree) := by
    rw [← kept, List.map_map]
    rfl
  have joined : RuleTree.conjoin? (records.map (·.tree)) = some chain.tree := by
    rw [trees, tree_of_and conjoined]
  exact ⟨_, Option.map_eq_some_iff.mpr ⟨_, joined, rfl⟩, rfl, rfl⟩

/-- **Joining rules in their texts comes to joining their trees.** A chain of texts of rules, each
between parentheses, is the text of a rule:

* its tree joins those of the clauses from the left, by the connectives between them;
* its fields are, in ascending order, those that any of the clauses looks at;
* where all connectives are AND, both are what combining the records of the clauses gives. -/
theorem ofText?_toText_chain {chain : Chain}
    (read : ∀ clause ∈ chain.clauses, ParsedRule.ofText? clause.text = .ok clause.rule) :
    ∃ whole, ParsedRule.ofText? chain.toText = .ok whole ∧ whole.tree = chain.tree ∧
      FieldSet.Ascending whole.fields ∧
      (∀ name, name ∈ whole.fields ↔ ∃ clause ∈ chain.clauses, name ∈ clause.rule.fields) ∧
      ((∀ link ∈ chain.rest, link.1 = .and) → ∀ records : List RuleRecord,
        records.map (·.clause) = chain.clauses →
          ∃ draft, RuleRecord.combine? records = some draft ∧ draft.tree = whole.tree ∧
            draft.fields = whole.fields) := by
  have derived : Derives .expr (Token.scan chain.toText.toList) chain.tree :=
    derives_toText fun clause mem => (ParsedRule.ofText?_eq_ok_iff.mp (read clause mem)).1
  refine ⟨⟨chain.tree, chain.tree.fields⟩, ParsedRule.ofText?_eq_ok_iff.mpr ⟨derived, rfl⟩, rfl,
    chain.tree.ascending_fields, fun name => ?_, fun conjoined records kept => ?_⟩
  · rw [mem_fields_tree]
    refine exists_congr fun clause => and_congr_right fun mem => ?_
    rw [(ParsedRule.ofText?_eq_ok_iff.mp (read clause mem)).2]
  · exact combine?_of_and conjoined kept

/-- A clause as it is read. -/
def sample (text : String) : Clause := (RuleRecord.sample text).clause

/-- Three rules that are all to be met; the parentheses keep the OR of the first one together. -/
def allOf : Chain := ⟨sample "a = 1 OR b = 2", [(.and, sample "c = 3"), (.and, sample "a < 4")]⟩

/-- The text of the chain is read as the combination of its clauses. -/
theorem allOf_combined :
    (∀ clause ∈ allOf.clauses, ParsedRule.ofText? clause.text = .ok clause.rule) ∧
    allOf.toText = "(a = 1 OR b = 2) AND (c = 3) AND (a < 4)" ∧
    ∃ whole draft, ParsedRule.ofText? allOf.toText = .ok whole ∧
      RuleRecord.combine? (["a = 1 OR b = 2", "c = 3", "a < 4"].map .sample) = some draft ∧
      draft.tree = whole.tree ∧ draft.fields = whole.fields := by
  have read : ∀ clause ∈ allOf.clauses, ParsedRule.ofText? clause.text = .ok clause.rule := by
    decide +kernel
  obtain ⟨whole, readWhole, -, -, -, combined⟩ := ofText?_toText_chain read
  obtain ⟨draft, joined, tree, fields⟩ := combined (by decide)
    (["a = 1 OR b = 2", "c = 3", "a < 4"].map .sample) rfl
  exact ⟨read, by decide +kernel, whole, draft, readWhole, joined, tree, fields⟩

end Chain
end Rulebook
