import Rulebook.Proofs.Token.Scan
import Rulebook.RuleTree.Parser

/-!
The grammar of rules, and that reading tokens follows it.

An expression is a term, or an expression and a term with a connective between them. Both
connectives have one rank, so an expression groups from the left. A term is a condition, or an
expression between parentheses.

* `Derives`: which tokens are a phrase with which tree.
* `Reading.feeds_of_feed`: what taking in a token can do.
* `feedAll_of_derives`: reading takes in a phrase wherever it has a place, whatever stands around
  it.
* `Stacked`: what has been read, as slots with the tokens they stand for; `Stacked.feed` is its
  step.
* `ofTokens?_eq_ok_iff`: the rule of some tokens is the tree they derive, with the fields of that
  tree.
* `ParsedRule.ofText?_eq_ok_iff`: the rule of a text, by the derivations of its tokens.
* `ofTokens?_iff_derives`: exactly the derivable tokens are read, with exactly the derived tree.
-/

namespace Rulebook

/-- The kinds of phrases. -/
inductive Phrase where
  | expr
  | term
  deriving DecidableEq, Repr

/-- `Derives kind ts t`: the tokens `ts` are a phrase of a kind, and `t` is its tree. -/
inductive Derives : Phrase → List Token → RuleTree → Prop where
  | single {ts t} : Derives .term ts t → Derives .expr ts t
  | join {ls rs op left right} : Derives .expr ls left → Derives .term rs right →
      Derives .expr (ls ++ .connective op :: rs) (.node op left right)
  | condition {text c} : Condition.ofText? text = .ok c → Derives .term [.fragment text] (.leaf c)
  | group {ts t} : Derives .expr ts t → Derives .term (.openParen :: (ts ++ [.closeParen])) t

/-- Every condition of a derived tree is that of a fragment. -/
theorem Derives.exists_fragment {kind : Phrase} {ts : List Token} {t : RuleTree}
    (h : Derives kind ts t) {c : Condition} (mem : c ∈ t.leaves) :
    ∃ text, .fragment text ∈ ts ∧ Condition.ofText? text = .ok c := by
  induction h with
  | single _ ih => exact ih mem
  | join _ _ ihl ihr =>
    rcases List.mem_append.mp mem with left | right
    · obtain ⟨text, there, read⟩ := ihl left
      exact ⟨text, by simp [there], read⟩
    · obtain ⟨text, there, read⟩ := ihr right
      exact ⟨text, by simp [there], read⟩
  | @condition text _ read =>
    obtain rfl := List.mem_singleton.mp mem
    exact ⟨text, by simp, read⟩
  | group _ ih =>
    obtain ⟨text, there, read⟩ := ih mem
    exact ⟨text, by simp [there], read⟩

/-! ### One token -/

namespace Reading

/-- What taking in a token can do to a reading. -/
inductive Feeds : Reading → Token → Reading → Prop where
  /-- A part of its own starts. -/
  | openParen {r} : Feeds r .openParen r.openGroup
  /-- A finished part hangs into the slot around it. -/
  | closeParen {slot after outer tree fields} : slot.fill tree = .ok after →
      Feeds ⟨slot :: outer, .complete tree, fields⟩ .closeParen ⟨outer, after, fields⟩
  /-- A finished part waits for another. -/
  | connective {outer left fields} (op : Connective) :
      Feeds ⟨outer, .complete left, fields⟩ (.connective op) ⟨outer, .awaiting op left, fields⟩
  /-- A condition hangs into the current slot. -/
  | fragment {outer current after fields text c} : Condition.ofText? text = .ok c →
      current.fill (.leaf c) = .ok after →
      Feeds ⟨outer, current, fields⟩ (.fragment text) ⟨outer, after, fields.insert c.field⟩

/-- **A token that is taken in does one of these.** -/
theorem feeds_of_feed {r next : Reading} {token : Token} (fed : r.feed token = .ok next) :
    Feeds r token next := by
  obtain ⟨outer, current, fields⟩ := r
  cases token with
  | openParen =>
    cases fed
    exact .openParen
  | closeParen =>
    cases current with
    | empty => cases fed
    | awaiting op left => cases fed
    | complete tree =>
      cases outer with
      | nil => cases fed
      | cons slot slots =>
        cases filled : slot.fill tree with
        | error e => simp [feed, closeGroup, filled, bind, Except.bind] at fed
        | ok after =>
          simp only [feed, closeGroup, filled, bind, Except.bind, Except.ok.injEq] at fed
          subst fed
          exact .closeParen filled
  | connective op =>
    cases current with
    | empty => cases fed
    | awaiting earlier left => cases fed
    | complete left =>
      cases fed
      exact .connective op
  | fragment text =>
    cases read : Condition.ofText? text with
    | error e => simp [feed, attach, read, bind, Except.bind] at fed
    | ok c =>
      cases filled : current.fill (.leaf c) with
      | error e => simp [feed, attach, read, filled, bind, Except.bind] at fed
      | ok after =>
        simp only [feed, attach, read, filled, bind, Except.bind, Except.ok.injEq] at fed
        subst fed
        exact .fragment read filled

end Reading

/-! ### Derivable tokens are read -/

/-- Where a phrase has a place, and what it leaves there: an expression needs a slot of its own, a
term hangs into any slot that is not complete. -/
def Phrase.Fits : Phrase → Slot → RuleTree → Slot → Prop
  | .expr, before, t, after => before = .empty ∧ after = .complete t
  | .term, before, t, after => before.fill t = .ok after

theorem Reading.feedAll_append (r : Reading) (xs ys : List Token) :
    r.feedAll (xs ++ ys) = (r.feedAll xs).bind (·.feedAll ys) := by
  induction xs generalizing r with
  | nil => rfl
  | cons token rest ih =>
    cases fed : r.feed token with
    | error e => simp [feedAll, fed, Except.bind, bind]
    | ok next =>
      have := ih next
      simpa [feedAll, fed, Except.bind, bind] using this

/-- What every token keeps true of the tokens so far, all of them keep true. -/
theorem Reading.feedAll_induction {P : Reading → List Token → Prop}
    (step : ∀ {r next : Reading} {ts : List Token} {token : Token}, P r ts →
      r.feed token = .ok next → P next (ts ++ [token]))
    {r next : Reading} {ts us : List Token} (h : P r ts) (fed : r.feedAll us = .ok next) :
    P next (ts ++ us) := by
  induction us generalizing r ts with
  | nil =>
    cases fed
    simpa using h
  | cons token rest ih =>
    cases first : r.feed token with
    | error e => simp [feedAll, first, bind, Except.bind] at fed
    | ok mid =>
      simp only [feedAll, first, bind, Except.bind] at fed
      have all := ih (step h first) fed
      rwa [List.append_assoc, List.singleton_append] at all

/-- **Reading takes in a phrase wherever it has a place.** The slots around stay as they are, and
the fields of the phrase are added. -/
theorem feedAll_of_derives {kind : Phrase} {ts : List Token} {t : RuleTree}
    (h : Derives kind ts t) :
    ∀ {r : Reading} {after : Slot}, kind.Fits r.current t after →
      r.feedAll ts = .ok { r with current := after, fields := t.addFields r.fields } := by
  induction h with
  | single _ ih =>
    rintro r after ⟨empty, rfl⟩
    exact ih (show r.current.fill _ = _ by rw [empty]; rfl)
  | @join ls rs op left right _ _ ihl ihr =>
    rintro r after ⟨empty, rfl⟩
    rw [Reading.feedAll_append, ihl ⟨empty, rfl⟩]
    -- The connective turns the finished left part into a slot that waits for the right one.
    exact ihr (r := { r with current := .awaiting op left, fields := left.addFields r.fields }) rfl
  | condition read =>
    intro r after fits
    have filled : r.current.fill _ = .ok after := fits
    simp [Reading.feedAll, Reading.feed, Reading.attach, read, filled, bind, Except.bind,
      RuleTree.addFields]
  | @group ts t _ ih =>
    intro r after fits
    have filled : r.current.fill t = .ok after := fits
    have inner : r.openGroup.feedAll ts =
        .ok { r.openGroup with current := .complete t, fields := t.addFields r.fields } :=
      ih ⟨rfl, rfl⟩
    change r.openGroup.feedAll (ts ++ [.closeParen]) = _
    rw [Reading.feedAll_append, inner]
    simp [Reading.feedAll, Reading.feed, Reading.closeGroup, Reading.openGroup, filled, bind,
      Except.bind]

theorem ofTokens?_of_derives {ts : List Token} {t : RuleTree} (h : Derives .expr ts t) :
    ParsedRule.ofTokens? ts = .ok { tree := t, fields := t.fields } := by
  have fed := feedAll_of_derives h (r := {}) ⟨rfl, rfl⟩
  simp only [ParsedRule.ofTokens?, fed]
  rfl

/-! ### Tokens that are read are derivable -/

/-- The tokens that what is in a slot stands for. -/
inductive Slot.Holds : Slot → List Token → Prop where
  | empty : Holds .empty []
  | complete {ts t} : Derives .expr ts t → Holds (.complete t) ts
  | awaiting {ts t op} : Derives .expr ts t → Holds (.awaiting op t) (ts ++ [.connective op])

/-- The tokens that slots inside one another stand for, the innermost slot first: an opening
parenthesis stands between a slot and the one around it. A complete slot may well be around others;
that it has no place for them shows when they close. -/
inductive Stacked : List Slot → List Token → Prop where
  | base {s ts} : s.Holds ts → Stacked [s] ts
  | inside {s slots ts us} : Stacked slots ts → s.Holds us →
      Stacked (s :: slots) (ts ++ .openParen :: us)

/-- A term that hangs into a slot is read behind what the slot holds. -/
theorem Slot.Holds.fill {s after : Slot} {ts us : List Token} {t : RuleTree} (held : s.Holds ts)
    (filled : s.fill t = .ok after) (term : Derives .term us t) : after.Holds (ts ++ us) := by
  cases held with
  | empty =>
    cases filled
    exact .complete (.single term)
  | complete _ => cases filled
  | @awaiting ts left op expr =>
    cases filled
    rw [List.append_assoc]
    exact .complete (.join expr term)

/-- What is read last changes the innermost slot only. -/
theorem Stacked.grow {s after : Slot} {slots : List Slot} {ts vs : List Token}
    (h : Stacked (s :: slots) ts) (grown : ∀ us, s.Holds us → after.Holds (us ++ vs)) :
    Stacked (after :: slots) (ts ++ vs) := by
  cases h with
  | base held => exact .base (grown _ held)
  | inside around held =>
    rw [List.append_assoc, List.cons_append]
    exact .inside around (grown _ held)

/-- **One token keeps the slots in step with the tokens.** -/
theorem Stacked.feed {r next : Reading} {ts : List Token} {token : Token}
    (h : Stacked (r.current :: r.outer) ts) (fed : r.feed token = .ok next) :
    Stacked (next.current :: next.outer) (ts ++ [token]) := by
  cases Reading.feeds_of_feed fed with
  | openParen => exact .inside h .empty
  | closeParen filled =>
    cases h with
    | inside around held =>
      cases held with
      | complete expr =>
        rw [List.append_assoc, List.cons_append]
        exact around.grow fun _ held => held.fill filled (.group expr)
  | connective op =>
    refine h.grow fun us held => ?_
    cases held with
    | complete expr => exact .awaiting expr
  | fragment read filled => exact h.grow fun _ held => held.fill filled (.condition read)

theorem Stacked.feedAll {r next : Reading} {ts us : List Token}
    (h : Stacked (r.current :: r.outer) ts) (fed : r.feedAll us = .ok next) :
    Stacked (next.current :: next.outer) (ts ++ us) :=
  Reading.feedAll_induction (P := fun r ts => Stacked (r.current :: r.outer) ts)
    (fun h fed => h.feed fed) h fed

/-- A rule has been read when all tokens are in and one complete slot is left, which holds it. -/
theorem feedAll_of_ofTokens? {ts : List Token} {p : ParsedRule}
    (h : ParsedRule.ofTokens? ts = .ok p) :
    Reading.feedAll {} ts = .ok ⟨[], .complete p.tree, p.fields⟩ := by
  cases fed : Reading.feedAll {} ts with
  | error e => simp [ParsedRule.ofTokens?, fed, bind, Except.bind] at h
  | ok r =>
    simp only [ParsedRule.ofTokens?, fed, bind, Except.bind] at h
    obtain ⟨outer, current, fields⟩ := r
    cases outer with
    | cons slot slots => cases h
    | nil =>
      cases current with
      | empty => cases h
      | awaiting op left => cases h
      | complete tree =>
        cases h
        rfl

theorem derives_of_ofTokens? {ts : List Token} {p : ParsedRule}
    (h : ParsedRule.ofTokens? ts = .ok p) : Derives .expr ts p.tree := by
  have stacked : Stacked [.complete p.tree] ts := by
    simpa using Stacked.feedAll (.base .empty) (feedAll_of_ofTokens? h)
  cases stacked with
  | base held =>
    cases held with
    | complete expr => exact expr
  | inside around _ => cases around

/-! ### The rule of some tokens -/

/-- The rule of some tokens is the tree that they derive, with the fields of that tree. -/
theorem ofTokens?_eq_ok_iff {ts : List Token} {p : ParsedRule} :
    ParsedRule.ofTokens? ts = .ok p ↔ Derives .expr ts p.tree ∧ p.fields = p.tree.fields := by
  constructor
  · intro h
    have derived := derives_of_ofTokens? h
    rw [ofTokens?_of_derives derived] at h
    exact ⟨derived, (congrArg ParsedRule.fields (Except.ok.inj h)).symm⟩
  · rintro ⟨derived, fields⟩
    rw [ofTokens?_of_derives derived, ← fields]

/-- **The rule of a text is the tree that its tokens derive, with the fields of that tree.** -/
theorem ParsedRule.ofText?_eq_ok_iff {text : String} {p : ParsedRule} :
    ofText? text = .ok p ↔
      Derives .expr (Token.scan text.toList) p.tree ∧ p.fields = p.tree.fields := by
  rw [← ofTokens?_eq_ok_iff]
  by_cases full : Token.scan text.toList = []
  · rw [full]
    constructor
    · intro read
      unfold ofText? Token.ofText? at read
      split at read
      · cases read
      · rwa [full] at read
    · intro read
      cases read
  · unfold ofText?
    rw [Token.ofText?_of_scan_ne_nil full]
    rfl

/-- **Reading accepts exactly the grammar, and gives exactly the tree of the derivation.** -/
theorem ofTokens?_iff_derives (ts : List Token) (t : RuleTree) :
    (∃ p, ParsedRule.ofTokens? ts = .ok p ∧ p.tree = t) ↔ Derives .expr ts t := by
  constructor
  · rintro ⟨p, read, rfl⟩
    exact (ofTokens?_eq_ok_iff.mp read).1
  · intro derived
    exact ⟨⟨t, t.fields⟩, ofTokens?_of_derives derived, rfl⟩

end Rulebook
