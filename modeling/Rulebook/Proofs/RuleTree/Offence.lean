import Rulebook.Proofs.Grammar
import Rulebook.Proofs.Token.Nesting

/-!
Why tokens are refused, told from the tokens alone.

Whether a token may stand where it does shows in the token directly before it and, for a closing
parenthesis, in what is directly before its partner. Reading stops at the first token that may not.

* `Footing`: what a token has directly before it.
* `Offends`: a token that may not follow the ones before it, and the cause it gives.
* `Refused`: the cause that tokens are refused for.
* `Stacked.feed_eq_error_iff`: reading refuses exactly the offending tokens; this is the step.
* `ofTokens?_eq_error_iff`: the cause of a refusal; `exists_ofTokens?_eq_ok_iff`: what is read.
* `ofTokens?_outcome`: the outcome for any tokens.
* `ParsedRule.ofText?_eq_error_iff`: the cause that a text is refused for.
-/

namespace Rulebook

open Token (Balanced Contained Unclosed)

/-- What stands directly before a token. -/
inductive Footing where
  /-- The start of the tokens or of a group. -/
  | bare
  /-- The end of a part: a fragment or a closing parenthesis. -/
  | part
  | connective (op : Connective)
  deriving DecidableEq, Repr

/-- What a token is for the one behind it. -/
def Token.footing : Token → Footing
  | openParen => .bare
  | closeParen => .part
  | fragment _ => .part
  | connective op => .connective op

/-- What the token behind some tokens stands on. -/
def footingAfter (before : List Token) : Footing :=
  (before.getLast?.map Token.footing).getD .bare

/-- What the token behind a slot stands on. -/
def Slot.footing : Slot → Footing
  | empty => .bare
  | complete _ => .part
  | awaiting op _ => .connective op

/-- `Offends before token cause`: the token may not stand behind the tokens before it, and `cause`
is what it is refused for. -/
inductive Offends (before : List Token) : Token → ParseError → Prop where
  /-- A fragment that is no condition. -/
  | noCondition {text} : (∀ c, Condition.ofText? text ≠ .ok c) →
      Offends before (.fragment text) (.invalidCondition text)
  /-- A condition directly behind a part. -/
  | besidePart {text c} : Condition.ofText? text = .ok c → footingAfter before = .part →
      Offends before (.fragment text) .malformedExpression
  /-- A connective without a left part. -/
  | leading {op} : footingAfter before = .bare →
      Offends before (.connective op) (.danglingConnective op.keyword)
  /-- A connective behind another one; the earlier one lacks its right part. -/
  | doubled {op earlier} : footingAfter before = .connective earlier →
      Offends before (.connective op) (.danglingConnective earlier.keyword)
  /-- A group that closes with nothing in it. -/
  | emptyGroup : footingAfter before = .bare → Offends before .closeParen .unexpectedClose
  /-- A group that closes behind a connective. -/
  | cutGroup {op} : footingAfter before = .connective op →
      Offends before .closeParen (.danglingConnective op.keyword)
  /-- A closing parenthesis without a partner. -/
  | unopened : footingAfter before = .part → ¬ Unclosed before →
      Offends before .closeParen .unbalancedParentheses
  /-- A group whose opening parenthesis stands directly behind a part. -/
  | groupBesidePart {front inner} : footingAfter before = .part →
      before = front ++ .openParen :: inner → Balanced inner → footingAfter front = .part →
      Offends before .closeParen .malformedExpression

/-- Every token may stand where it does. -/
def Sound (ts : List Token) : Prop :=
  ∀ before token rest cause, ts = before ++ token :: rest → ¬ Offends before token cause

/-- `Refused ts cause`: the cause that the tokens are refused for. -/
inductive Refused : List Token → ParseError → Prop where
  /-- The first token that may not stand where it does. -/
  | offence {before token rest cause} : Sound before → Offends before token cause →
      Refused (before ++ token :: rest) cause
  | unclosed {ts} : Sound ts → Unclosed ts → Refused ts .unbalancedParentheses
  | empty : Refused [] .emptyRule
  /-- A connective at the very end. -/
  | trailing {ts op} : Sound ts → ¬ Unclosed ts → footingAfter ts = .connective op →
      Refused ts (.danglingConnective op.keyword)

/-! ### What slots say of the tokens -/

@[simp]
theorem footingAfter_nil : footingAfter [] = .bare := rfl

@[simp]
theorem footingAfter_concat (ts : List Token) (token : Token) :
    footingAfter (ts ++ [token]) = token.footing := by
  simp [footingAfter]

theorem footingAfter_eq_connective_iff {ts : List Token} {op : Connective} :
    footingAfter ts = .connective op ↔ ts.getLast? = some (.connective op) := by
  rcases List.eq_nil_or_concat' ts with rfl | ⟨ts, token, rfl⟩
  · simp
  · rw [footingAfter_concat, List.getLast?_concat]
    cases token <;> simp [Token.footing]

/-- Behind an opening parenthesis counts only what is inside. -/
theorem footingAfter_append_openParen (ts us : List Token) :
    footingAfter (ts ++ .openParen :: us) = footingAfter us := by
  rcases List.eq_nil_or_concat' us with rfl | ⟨us, token, rfl⟩
  · rw [footingAfter_concat]
    rfl
  · have regroup : ts ++ .openParen :: (us ++ [token]) = (ts ++ .openParen :: us) ++ [token] := by
      simp
    rw [regroup, footingAfter_concat, footingAfter_concat]

/-- A phrase ends in a part. -/
theorem Derives.footing {kind : Phrase} {ts : List Token} {t : RuleTree} (h : Derives kind ts t) :
    ∀ before, footingAfter (before ++ ts) = .part := by
  induction h with
  | single _ ih => exact ih
  | @join ls rs op left right _ _ _ ih =>
    intro before
    have regroup : before ++ (ls ++ .connective op :: rs) =
        (before ++ ls ++ [.connective op]) ++ rs := by
      simp
    rw [regroup]
    exact ih _
  | condition _ =>
    intro before
    exact footingAfter_concat before _
  | @group ts _ _ _ =>
    intro before
    have regroup : before ++ .openParen :: (ts ++ [.closeParen]) =
        (before ++ .openParen :: ts) ++ [.closeParen] := by
      simp
    rw [regroup]
    exact footingAfter_concat _ _

/-- A phrase closes what it opens, and nothing else. -/
theorem Derives.balanced {kind : Phrase} {ts : List Token} {t : RuleTree} (h : Derives kind ts t) :
    Balanced ts := by
  induction h with
  | single _ ih => exact ih
  | @join _ _ op _ _ _ _ ihl ihr =>
    have connective : Balanced [.connective op] := Token.balanced_singleton nofun nofun
    exact ihl.append (connective.append ihr)
  | condition _ => exact Token.balanced_singleton nofun nofun
  | group _ ih => exact ih.group

theorem Slot.Holds.footing {s : Slot} {ts : List Token} (h : s.Holds ts) :
    footingAfter ts = s.footing := by
  cases h with
  | empty => rfl
  | complete expr => exact expr.footing []
  | awaiting _ => exact footingAfter_concat _ _

theorem Slot.Holds.balanced {s : Slot} {ts : List Token} (h : s.Holds ts) : Balanced ts := by
  cases h with
  | empty => exact Token.balanced_nil
  | complete expr => exact expr.balanced
  | awaiting expr => exact expr.balanced.append (Token.balanced_singleton nofun nofun)

/-- The innermost slot is what the next token stands on. -/
theorem Stacked.footing {s : Slot} {slots : List Slot} {ts : List Token}
    (h : Stacked (s :: slots) ts) : footingAfter ts = s.footing := by
  cases h with
  | base held => exact held.footing
  | inside _ held => rw [footingAfter_append_openParen, held.footing]

/-- The slots around the innermost one are those of the parentheses still open. -/
theorem Stacked.unclosed_iff {s : Slot} {slots : List Slot} {ts : List Token}
    (h : Stacked (s :: slots) ts) : Unclosed ts ↔ slots ≠ [] := by
  cases h with
  | base held =>
    constructor
    · intro unclosed
      exact absurd unclosed held.balanced.not_unclosed
    · intro some
      exact absurd rfl some
  | @inside _ _ ts us around held =>
    constructor
    · rintro - rfl
      cases around
    · intro _
      exact ⟨ts, us, rfl, held.balanced.contained⟩

theorem Stacked.exists_innermost {slots : List Slot} {ts : List Token} (h : Stacked slots ts) :
    ∃ s rest, slots = s :: rest := by
  cases h with
  | base _ => exact ⟨_, [], rfl⟩
  | inside _ _ => exact ⟨_, _, rfl⟩

theorem Slot.footing_eq_bare_iff {s : Slot} : s.footing = .bare ↔ s = .empty := by
  cases s <;> simp [footing]

theorem Slot.footing_eq_connective_iff {s : Slot} {op : Connective} :
    s.footing = .connective op ↔ ∃ left, s = .awaiting op left := by
  cases s <;> simp [footing]

/-- Only a complete slot has no place for a part. -/
theorem Slot.fill_eq_error_iff {s : Slot} {t : RuleTree} {cause : ParseError} :
    s.fill t = .error cause ↔ s.footing = .part ∧ cause = .malformedExpression := by
  cases s <;> simp [fill, footing, eq_comm]

/-! ### One token -/

/-- A fragment is refused for itself only. -/
theorem Condition.cause_of_ofText? {fragment : String} {cause : ParseError}
    (h : ofText? fragment = .error cause) : cause = .invalidCondition fragment := by
  unfold ofText? at h
  split at h
  · cases h
  · cases h
    rfl

/-- Which fragments may not follow. -/
theorem Stacked.attach_eq_error_iff {r : Reading} {ts : List Token} {text : String}
    {cause : ParseError} (h : Stacked (r.current :: r.outer) ts) :
    r.attach text = .error cause ↔ Offends ts (.fragment text) cause := by
  cases read : Condition.ofText? text with
  | error refusal =>
    have own : refusal = .invalidCondition text := Condition.cause_of_ofText? read
    constructor
    · intro refused
      simp only [Reading.attach, read, bind, Except.bind, Except.error.injEq] at refused
      rw [← refused, own]
      exact .noCondition fun c isCondition => by simp [read] at isCondition
    · intro offends
      cases offends with
      | noCondition _ => simp [Reading.attach, read, own, bind, Except.bind]
      | besidePart isCondition _ => simp [read] at isCondition
  | ok condition =>
    have step : r.attach text = .error cause ↔ r.current.fill (.leaf condition) = .error cause := by
      cases filled : r.current.fill (.leaf condition) <;>
        simp [Reading.attach, read, filled, bind, Except.bind]
    rw [step, Slot.fill_eq_error_iff, ← h.footing]
    constructor
    · rintro ⟨behindPart, rfl⟩
      exact .besidePart read behindPart
    · intro offends
      cases offends with
      | noCondition none => exact absurd read (none condition)
      | besidePart _ behindPart => exact ⟨behindPart, rfl⟩

/-- Which connectives may not follow. -/
theorem Stacked.connect_eq_error_iff {r : Reading} {ts : List Token} {op : Connective}
    {cause : ParseError} (h : Stacked (r.current :: r.outer) ts) :
    r.connect op = .error cause ↔ Offends ts (.connective op) cause := by
  have stands := h.footing
  constructor
  · intro refused
    cases current : r.current with
    | empty =>
      simp only [Reading.connect, current, Except.error.injEq] at refused
      rw [← refused]
      exact .leading (by rw [stands, current]; rfl)
    | awaiting earlier left =>
      simp only [Reading.connect, current, Except.error.injEq] at refused
      rw [← refused]
      exact .doubled (by rw [stands, current]; rfl)
    | complete tree => simp [Reading.connect, current] at refused
  · intro offends
    cases offends with
    | leading bare =>
      have current := Slot.footing_eq_bare_iff.mp (stands.symm.trans bare)
      simp [Reading.connect, current]
    | doubled behind =>
      obtain ⟨left, current⟩ := Slot.footing_eq_connective_iff.mp (stands.symm.trans behind)
      simp [Reading.connect, current]

/-- Which closing parentheses may not follow a complete part: those that close no group, and those
of a group that stands directly behind a part. -/
theorem Stacked.closeComplete_eq_error_iff {tree : RuleTree} {outer : List Slot} {ts : List Token}
    {fields : FieldSet} {cause : ParseError} (h : Stacked (.complete tree :: outer) ts) :
    Reading.closeGroup ⟨outer, .complete tree, fields⟩ = .error cause ↔
      Offends ts .closeParen cause := by
  have behindPart : footingAfter ts = .part := h.footing
  have nested : Unclosed ts ↔ outer ≠ [] := h.unclosed_iff
  cases h with
  | base held =>
    constructor
    · intro refused
      cases refused
      exact .unopened behindPart fun unclosed => nested.mp unclosed rfl
    · intro offends
      cases offends with
      | emptyGroup bare => simp [behindPart] at bare
      | cutGroup behind => simp [behindPart] at behind
      | unopened _ _ => rfl
      | @groupBesidePart front inner _ split balanced _ =>
        exact absurd rfl (nested.mp ⟨front, inner, split, balanced.contained⟩)
  | @inside _ _ front inner around held =>
    obtain ⟨slot, slots, rfl⟩ := around.exists_innermost
    have refuses : Reading.closeGroup ⟨slot :: slots, .complete tree, fields⟩ = .error cause ↔
        slot.fill tree = .error cause := by
      cases filled : slot.fill tree <;> simp [Reading.closeGroup, filled, bind, Except.bind]
    rw [refuses, Slot.fill_eq_error_iff, ← around.footing]
    constructor
    · rintro ⟨beside, rfl⟩
      exact .groupBesidePart behindPart rfl held.balanced beside
    · intro offends
      cases offends with
      | emptyGroup bare => simp [behindPart] at bare
      | cutGroup behind => simp [behindPart] at behind
      | unopened _ closed => exact absurd (nested.mpr (List.cons_ne_nil slot slots)) closed
      | @groupBesidePart front' inner' _ split balanced beside =>
        have partner : front = front' := held.balanced.eq_of_append balanced split
        exact ⟨partner ▸ beside, rfl⟩

/-- Which closing parentheses may not follow. -/
theorem Stacked.closeGroup_eq_error_iff {r : Reading} {ts : List Token} {cause : ParseError}
    (h : Stacked (r.current :: r.outer) ts) :
    r.closeGroup = .error cause ↔ Offends ts .closeParen cause := by
  obtain ⟨outer, current, fields⟩ := r
  have stands := h.footing
  cases current with
  | complete tree => exact closeComplete_eq_error_iff h
  | empty =>
    have bare : footingAfter ts = .bare := stands
    constructor
    · intro refused
      cases refused
      exact .emptyGroup bare
    · intro offends
      cases offends with
      | emptyGroup _ => rfl
      | cutGroup behind => simp [bare] at behind
      | unopened behind _ => simp [bare] at behind
      | groupBesidePart behind _ _ _ => simp [bare] at behind
  | awaiting op left =>
    have behindConnective : footingAfter ts = .connective op := stands
    constructor
    · intro refused
      cases refused
      exact .cutGroup behindConnective
    · intro offends
      cases offends with
      | emptyGroup behind => simp [behindConnective] at behind
      | cutGroup behind =>
        rw [behindConnective, Footing.connective.injEq] at behind
        rw [← behind]
        rfl
      | unopened behind _ => simp [behindConnective] at behind
      | groupBesidePart behind _ _ _ => simp [behindConnective] at behind

/-- **Reading refuses exactly the tokens that may not follow, for the cause that they give.** -/
theorem Stacked.feed_eq_error_iff {r : Reading} {ts : List Token} {token : Token}
    {cause : ParseError} (h : Stacked (r.current :: r.outer) ts) :
    r.feed token = .error cause ↔ Offends ts token cause := by
  cases token with
  | openParen =>
    constructor
    · intro refused
      cases refused
    · intro offends
      cases offends
  | closeParen => exact h.closeGroup_eq_error_iff
  | connective op => exact h.connect_eq_error_iff
  | fragment text => exact h.attach_eq_error_iff

/-! ### All tokens -/

theorem sound_nil : Sound [] := by
  intro before token rest cause split
  simp at split

/-- Tokens are sound if all but the last are, and the last may follow them. -/
theorem sound_concat_iff {ts : List Token} {token : Token} :
    Sound (ts ++ [token]) ↔ Sound ts ∧ ∀ cause, ¬ Offends ts token cause := by
  constructor
  · intro sound
    refine ⟨fun before other rest cause split => ?_, fun cause => sound ts token [] cause rfl⟩
    exact sound before other (rest ++ [token]) cause (by simp [split])
  · rintro ⟨sound, follows⟩ before other rest cause split
    rcases List.eq_nil_or_concat' rest with rfl | ⟨rest, final, rfl⟩
    · obtain ⟨rfl, same⟩ := List.append_inj' split rfl
      obtain rfl := List.singleton_inj.mp same
      exact follows cause
    · have regroup : ts ++ [token] = (before ++ other :: rest) ++ [final] := by
        simp [split]
      exact sound before other rest cause (List.append_inj' regroup rfl).1

theorem Reading.feedAll_concat (r : Reading) (ts : List Token) (token : Token) :
    r.feedAll (ts ++ [token]) = (r.feedAll ts).bind (·.feed token) := by
  rw [feedAll_append]
  congr
  funext mid
  cases fed : mid.feed token <;> simp [feedAll, fed, bind, Except.bind]

theorem stacked_of_feedAll {ts : List Token} {r : Reading} (fed : Reading.feedAll {} ts = .ok r) :
    Stacked (r.current :: r.outer) ts := by
  simpa using Stacked.feedAll (.base .empty) fed

/-- **Reading takes in exactly the tokens that are sound.** -/
theorem exists_feedAll_eq_ok_iff {ts : List Token} :
    (∃ r, Reading.feedAll {} ts = .ok r) ↔ Sound ts := by
  induction ts using List.reverseRecOn with
  | nil => exact iff_of_true ⟨_, rfl⟩ sound_nil
  | append_singleton ts token ih =>
    rw [sound_concat_iff, ← ih]
    constructor
    · rintro ⟨r, fed⟩
      rw [Reading.feedAll_concat] at fed
      cases before : Reading.feedAll {} ts with
      | error earlier =>
        rw [before] at fed
        cases fed
      | ok mid =>
        refine ⟨⟨mid, rfl⟩, fun cause offends => ?_⟩
        have step : mid.feed token = .error cause :=
          (stacked_of_feedAll before).feed_eq_error_iff.mpr offends
        rw [before] at fed
        exact absurd (step.symm.trans fed) nofun
    · rintro ⟨⟨mid, before⟩, follows⟩
      cases step : mid.feed token with
      | error cause =>
        exact absurd ((stacked_of_feedAll before).feed_eq_error_iff.mp step) (follows cause)
      | ok r =>
        refine ⟨r, ?_⟩
        rw [Reading.feedAll_concat, before]
        exact step

/-- **Reading stops at the first token that may not follow, for the cause that it gives.** -/
theorem feedAll_eq_error_iff {ts : List Token} {cause : ParseError} :
    Reading.feedAll {} ts = .error cause ↔
      ∃ before token rest, ts = before ++ token :: rest ∧ Sound before ∧
        Offends before token cause := by
  constructor
  · intro refused
    induction ts using List.reverseRecOn with
    | nil => cases refused
    | append_singleton ts token ih =>
      rw [Reading.feedAll_concat] at refused
      cases before : Reading.feedAll {} ts with
      | error earlier =>
        rw [before] at refused
        obtain ⟨front, other, rest, rfl, sound, offends⟩ := ih (before.trans refused)
        exact ⟨front, other, rest ++ [token], by simp, sound, offends⟩
      | ok mid =>
        rw [before] at refused
        exact ⟨ts, token, [], rfl, exists_feedAll_eq_ok_iff.mp ⟨mid, before⟩,
          (stacked_of_feedAll before).feed_eq_error_iff.mp refused⟩
  · rintro ⟨before, token, rest, rfl, sound, offends⟩
    obtain ⟨mid, read⟩ := exists_feedAll_eq_ok_iff.mpr sound
    have step : mid.feed token = .error cause :=
      (stacked_of_feedAll read).feed_eq_error_iff.mpr offends
    rw [Reading.feedAll_append, read]
    simp [Except.bind, Reading.feedAll, step, bind]

/-- Sound tokens are refused for what is missing at their end. -/
theorem Stacked.refused_of_finish {r : Reading} {ts : List Token} {cause : ParseError}
    (h : Stacked (r.current :: r.outer) ts) (sound : Sound ts) (refused : r.finish = .error cause) :
    Refused ts cause := by
  obtain ⟨outer, current, fields⟩ := r
  have nested : Unclosed ts ↔ outer ≠ [] := h.unclosed_iff
  cases outer with
  | cons slot slots =>
    cases refused
    exact .unclosed sound (nested.mpr (List.cons_ne_nil slot slots))
  | nil =>
    have closed : ¬ Unclosed ts := fun unclosed => nested.mp unclosed rfl
    cases h with
    | inside around _ => cases around
    | base held =>
      cases held with
      | empty =>
        cases refused
        exact .empty
      | complete _ => cases refused
      | awaiting expr =>
        cases refused
        exact .trailing sound closed (footingAfter_concat _ _)

theorem refused_of_ofTokens? {ts : List Token} {cause : ParseError}
    (h : ParsedRule.ofTokens? ts = .error cause) : Refused ts cause := by
  cases fed : Reading.feedAll {} ts with
  | error earlier =>
    simp only [ParsedRule.ofTokens?, fed, bind, Except.bind, Except.error.injEq] at h
    subst h
    obtain ⟨before, token, rest, rfl, sound, offends⟩ := feedAll_eq_error_iff.mp fed
    exact .offence sound offends
  | ok r =>
    simp only [ParsedRule.ofTokens?, fed, bind, Except.bind] at h
    exact (stacked_of_feedAll fed).refused_of_finish (exists_feedAll_eq_ok_iff.mp ⟨r, fed⟩) h

theorem ofTokens?_of_refused {ts : List Token} {cause : ParseError} (h : Refused ts cause) :
    ParsedRule.ofTokens? ts = .error cause := by
  cases h with
  | @offence before token rest _ sound offends =>
    have fed : Reading.feedAll {} (before ++ token :: rest) = .error cause :=
      feedAll_eq_error_iff.mpr ⟨before, token, rest, rfl, sound, offends⟩
    simp [ParsedRule.ofTokens?, fed, bind, Except.bind]
  | unclosed sound unclosed =>
    obtain ⟨r, fed⟩ := exists_feedAll_eq_ok_iff.mpr sound
    have around : r.outer ≠ [] := (stacked_of_feedAll fed).unclosed_iff.mp unclosed
    simp [ParsedRule.ofTokens?, fed, bind, Except.bind, Reading.finish, around]
  | empty => rfl
  | trailing sound closed behind =>
    obtain ⟨r, fed⟩ := exists_feedAll_eq_ok_iff.mpr sound
    have stacked := stacked_of_feedAll fed
    have outer : r.outer = [] := by
      by_contra around
      exact closed (stacked.unclosed_iff.mpr around)
    obtain ⟨left, current⟩ := Slot.footing_eq_connective_iff.mp (stacked.footing.symm.trans behind)
    simp [ParsedRule.ofTokens?, fed, bind, Except.bind, Reading.finish, outer, current]

/-- **The cause that reading gives is the cause that the tokens are refused for.** -/
theorem ofTokens?_eq_error_iff {ts : List Token} {cause : ParseError} :
    ParsedRule.ofTokens? ts = .error cause ↔ Refused ts cause :=
  ⟨refused_of_ofTokens?, ofTokens?_of_refused⟩

/-- Only where there are no tokens is there no rule among them. -/
theorem refused_emptyRule_iff {ts : List Token} : Refused ts .emptyRule ↔ ts = [] := by
  constructor
  · intro refused
    cases refused with
    | offence _ offends => cases offends
    | empty => rfl
  · rintro rfl
    exact .empty

/-- **Tokens are read if they are sound, close what they open and end in a part.** -/
theorem exists_ofTokens?_eq_ok_iff {ts : List Token} :
    (∃ p, ParsedRule.ofTokens? ts = .ok p) ↔
      Sound ts ∧ ¬ Unclosed ts ∧ ts ≠ [] ∧ ∀ op, ts.getLast? ≠ some (.connective op) := by
  simp only [ne_eq, ← footingAfter_eq_connective_iff]
  constructor
  · rintro ⟨p, read⟩
    have derived := derives_of_ofTokens? read
    have fed := feedAll_of_derives derived (r := {}) ⟨rfl, rfl⟩
    have behindPart : footingAfter ts = .part := derived.footing []
    refine ⟨exists_feedAll_eq_ok_iff.mp ⟨_, fed⟩, derived.balanced.not_unclosed, ?_, ?_⟩
    · rintro rfl
      cases behindPart
    · intro op behind
      rw [behindPart] at behind
      cases behind
  · rintro ⟨sound, closed, some, ends⟩
    cases read : ParsedRule.ofTokens? ts with
    | ok p => exact ⟨p, rfl⟩
    | error cause =>
      cases refused_of_ofTokens? read with
      | offence sound' offends => exact absurd offends (sound _ _ _ _ rfl)
      | unclosed _ unclosed => exact absurd unclosed closed
      | empty => exact absurd rfl some
      | trailing _ _ behind => exact absurd behind (ends _)

/-- **The outcome for any tokens.** A refusal is decided by the first token that may not stand where
it does, or else by what is missing at the end; where neither is the case, the tokens are a rule. -/
theorem ofTokens?_outcome (ts : List Token) :
    (∀ cause, ParsedRule.ofTokens? ts = .error cause ↔ Refused ts cause) ∧
    ((∃ p, ParsedRule.ofTokens? ts = .ok p) ↔
      Sound ts ∧ ¬ Unclosed ts ∧ ts ≠ [] ∧ ∀ op, ts.getLast? ≠ some (.connective op)) ∧
    (ParsedRule.ofTokens? ts = .error .emptyRule ↔ ts = []) := by
  refine ⟨fun cause => ofTokens?_eq_error_iff, exists_ofTokens?_eq_ok_iff, ?_⟩
  rw [ofTokens?_eq_error_iff]
  exact refused_emptyRule_iff

/-- What is no condition is refused for that, also where a condition could not stand either. -/
example : ParsedRule.ofTokens? [.fragment "a = 1", .fragment "b", .closeParen] =
    .error (.invalidCondition "b") := by
  decide +kernel

/-! ### All texts -/

namespace ParsedRule

variable {text : String} {cause : ParseError}

end ParsedRule
end Rulebook
