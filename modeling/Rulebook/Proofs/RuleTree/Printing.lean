import Rulebook.Proofs.Condition.Printing
import Rulebook.Proofs.Grammar

/-!
Which rules their printed text gives back.

* `RuleTree.scan_toText`: where all conditions can be written, the tokens of a printed rule are the
  parentheses, connectives and conditions that have been printed.
* `RuleTree.ofText?_toText`: such a rule is read back, or its first misprinted condition is refused.
* `RuleTree.ofText?_toText_iff_printable`: exactly the rules with printable conditions are read
  back.
* `ParsedRule.ofText?_toText_tree`: what becomes of a rule that has been read from a text.
-/

namespace Rulebook

/-- A condition that has been read from a text can be written without a delimiter. -/
theorem Derives.separable {kind : Phrase} {text : List Char} {t : RuleTree}
    (h : Derives kind (Token.scan text) t) {c : Condition} (mem : c ∈ t.leaves) :
    c.Separable := by
  obtain ⟨fragment, there, read⟩ := h.exists_fragment mem
  exact (Condition.ofText?_eq_ok_iff.mp read).separable (Token.plain_of_mem_scan there)

namespace RuleTree

/-! ### The tokens of a printed rule -/

/-- The tokens that a rule is printed with. -/
def tokens : RuleTree → List Token
  | leaf c => [.fragment c.toText]
  | node op left right => .openParen :: (left.tokens ++ .connective op :: right.tokens ++
      [.closeParen])

theorem toList_toText_node (op : Connective) (left right : RuleTree) :
    (node op left right).toText.toList = [] ++ '(' :: ((left.toText.toList ++ [' '] ++
      op.keyword.toList ++ ' ' :: right.toText.toList) ++ ')' :: []) := by
  simp [toText]

/-- **A printed rule is cut exactly where its parts have been put together.** -/
theorem scan_toText {t : RuleTree} (h : ∀ c ∈ t.leaves, c.Separable) :
    Token.scan t.toText.toList = t.tokens := by
  induction t with
  | leaf c =>
    have separable := h c (by simp [leaves])
    change Token.scan c.toText.toList = [.fragment c.toText]
    have full : c.toText.toList.isEmpty = false := by
      have starts := separable.startsInWord_toText
      cases text : c.toText.toList with
      | nil => rw [text] at starts; cases starts
      | cons x rest => rfl
    rw [Token.scan_of_plain separable.plain_toText, Token.ofGap, separable.trim_toText,
      String.ofList_toList, full]
    rfl
  | node op left right ihl ihr =>
    have blank : Text.isBlank ' ' = true := by decide
    have leftEnds : Text.endsInWord (left.toText.toList ++ [' ']) = false := by
      rw [Text.endsInWord_concat]
      decide
    have rightStarts : Text.startsInWord (' ' :: right.toText.toList) = false := by
      rw [Text.startsInWord_cons]
      decide
    rw [toList_toText_node, Token.scan_append_openParen, Token.scan_append_closeParen,
      Token.scan_append_keyword op leftEnds rightStarts, Token.scan_concat_blank blank,
      Token.scan_cons_blank blank, ihl fun c mem => h c (by simp [leaves, mem]),
      ihr fun c mem => h c (by simp [leaves, mem])]
    rfl

/-! ### Reading a printed rule -/

/-- The leftmost condition whose printed text is refused. -/
def misprinted? (t : RuleTree) : Option Condition :=
  t.leaves.find? fun c => Condition.isMisprinted c.value

theorem misprinted?_node (op : Connective) (left right : RuleTree) :
    (node op left right).misprinted? = left.misprinted?.or right.misprinted? :=
  List.find?_append

theorem misprinted?_eq_none_iff {t : RuleTree} : t.misprinted? = none ↔
    ∀ c ∈ t.leaves, Condition.isMisprinted c.value = false := by
  simp [misprinted?]

/-- **Reading takes in the tokens of a rule up to the first misprinted condition.** -/
theorem feedAll_tokens {t : RuleTree} (h : ∀ c ∈ t.leaves, c.Separable) :
    ∀ {r : Reading} {after : Slot}, r.current.fill t = .ok after →
      r.feedAll t.tokens = match t.misprinted? with
        | none => .ok { r with current := after, fields := t.addFields r.fields }
        | some c => .error (.invalidCondition c.toText) := by
  induction t with
  | leaf c =>
    intro r after place
    have text := (h c (by simp [leaves])).ofText?_toText
    cases wrong : Condition.isMisprinted c.value with
    | true =>
      have found : (leaf c).misprinted? = some c := by simp [misprinted?, leaves, wrong]
      rw [found]
      simp [tokens, Reading.feedAll, Reading.feed, Reading.attach, text, wrong, bind, Except.bind]
    | false =>
      have found : (leaf c).misprinted? = none := by simp [misprinted?, leaves, wrong]
      rw [found]
      simp [tokens, Reading.feedAll, Reading.feed, Reading.attach, text, wrong, place, bind,
        Except.bind, addFields]
  | node op left right ihl ihr =>
    intro r after place
    have readLeft := ihl (fun c mem => h c (by simp [leaves, mem])) (r := r.openGroup) rfl
    change r.openGroup.feedAll (left.tokens ++ .connective op :: right.tokens ++ [.closeParen]) = _
    rw [Reading.feedAll_append, Reading.feedAll_append, readLeft, misprinted?_node]
    cases foundLeft : left.misprinted? with
    | some c => rfl
    | none =>
      -- The connective turns the finished left part into a slot that waits for the right one.
      have readRight := ihr (fun c mem => h c (by simp [leaves, mem]))
        (r := ⟨r.current :: r.outer, .awaiting op left, left.addFields r.fields⟩) rfl
      change (Reading.feedAll ⟨r.current :: r.outer, .awaiting op left, left.addFields r.fields⟩
        right.tokens).bind (·.feedAll [.closeParen]) = _
      rw [readRight, Option.none_or]
      cases foundRight : right.misprinted? with
      | some c => rfl
      | none =>
        simp [Reading.feedAll, Reading.feed, Reading.closeGroup, place, bind, Except.bind,
          addFields]

/-- **A printed rule is read back, or its first misprinted condition is refused.** -/
theorem ofText?_toText {t : RuleTree} (h : ∀ c ∈ t.leaves, c.Separable) :
    ParsedRule.ofText? t.toText = match t.misprinted? with
      | none => .ok ⟨t, t.fields⟩
      | some c => .error (.invalidCondition c.toText) := by
  have cut := scan_toText h
  have full : Token.scan t.toText.toList ≠ [] := by
    rw [cut]
    cases t <;> simp [tokens]
  have read := feedAll_tokens h (r := {}) rfl
  unfold ParsedRule.ofText? ParsedRule.ofTokens?
  rw [Token.ofText?_of_scan_ne_nil full, cut]
  change (Reading.feedAll {} t.tokens).bind Reading.finish = _
  rw [read]
  cases t.misprinted? <;> rfl

/-- **Exactly the rules with printable conditions are read back from their printed text.** -/
theorem ofText?_toText_iff_printable (t : RuleTree) :
    (∃ p, ParsedRule.ofText? t.toText = .ok p ∧ p.tree = t) ↔ ∀ c ∈ t.leaves, c.Printable := by
  constructor
  · rintro ⟨p, read, rfl⟩
    have derived := (ParsedRule.ofText?_eq_ok_iff.mp read).1
    have separable : ∀ c ∈ p.tree.leaves, c.Separable := fun c mem => derived.separable mem
    rw [ofText?_toText separable] at read
    cases found : p.tree.misprinted? with
    | some c => simp [found] at read
    | none =>
      exact fun c mem => Condition.printable_iff.mpr
        ⟨separable c mem, misprinted?_eq_none_iff.mp found c mem⟩
  · intro printable
    have found := misprinted?_eq_none_iff.mpr fun c mem =>
      (Condition.printable_iff.mp (printable c mem)).2
    refine ⟨⟨t, t.fields⟩, ?_, rfl⟩
    rw [ofText?_toText fun c mem => (printable c mem).toSeparable, found]

end RuleTree

namespace ParsedRule

/-- **A rule that has been read from a text is read back from its printed text exactly if no point
stands at an end of a value that is printed without quotes;** otherwise the first such condition is
refused. -/
theorem ofText?_toText_tree {text : String} {p : ParsedRule} (h : ofText? text = .ok p) :
    (ofText? p.tree.toText = .ok p ↔ ∀ c ∈ p.tree.leaves, Condition.isBare c.value = true →
      c.value.toList.head? ≠ some '.' ∧ c.value.toList.getLast? ≠ some '.') ∧
    ∀ c, p.tree.misprinted? = some c →
      ofText? p.tree.toText = .error (.invalidCondition c.toText) := by
  obtain ⟨derived, fields⟩ := ofText?_eq_ok_iff.mp h
  have same : p = ⟨p.tree, p.tree.fields⟩ := by rw [← fields]
  have read := RuleTree.ofText?_toText fun c mem => derived.separable mem
  constructor
  · simp only [← Condition.isMisprinted_eq_false_iff, ← RuleTree.misprinted?_eq_none_iff]
    rw [read]
    cases found : p.tree.misprinted? with
    | some c => simp
    | none => simp [← same]
  · intro c found
    rw [read, found]

/-- A rule with a decimal, a bare word and a value in quotes. -/
def mixedValues : ParsedRule where
  tree := .node .and (.node .or (.leaf ⟨"age", .greater, "3.5"⟩) (.leaf ⟨"role", .equal, "admin"⟩))
    (.leaf ⟨"name", .equal, "a  b"⟩)
  fields := ["age", "name", "role"]

/-- All three ways to write a value come back. -/
theorem mixedValues_reread :
    ofText? "(age > 3.5 OR role = admin) AND name = 'a  b'" = .ok mixedValues ∧
      ofText? mixedValues.tree.toText = .ok mixedValues := by
  have read : ofText? "(age > 3.5 OR role = admin) AND name = 'a  b'" = .ok mixedValues := by
    decide +kernel
  exact ⟨read, (ofText?_toText_tree read).1.mpr (by decide +kernel)⟩

/-- A value that ends with a point loses its quotes, and what is left is no condition. -/
theorem quotedPoint_refused :
    ofText? "x = '5.'" = .ok ⟨.leaf ⟨"x", .equal, "5."⟩, ["x"]⟩ ∧
      ofText? (RuleTree.leaf ⟨"x", .equal, "5."⟩).toText = .error (.invalidCondition "x = 5.") := by
  decide +kernel

end ParsedRule
end Rulebook
