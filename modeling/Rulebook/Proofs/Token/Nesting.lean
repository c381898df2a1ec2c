import Rulebook.Token

/-!
Which parentheses belong together.

Nothing but the number of parentheses decides this: an opening one is still open for as long as the
tokens behind it do not close more than they open.

* `Contained`, `Balanced`: tokens that close nothing from before them, and that also leave nothing
  open.
* `Unclosed`: tokens that leave a parenthesis open; `Balanced.not_unclosed`: balanced ones do not.
* `Balanced.eq_of_append`: the parenthesis that a closing one belongs to is the only one with
  balanced tokens behind it.
-/

namespace Rulebook.Token

variable {xs ys ts : List Token}

/-- No parenthesis closes in these tokens that has not been opened in them. -/
def Contained (ts : List Token) : Prop :=
  ∀ front, front <+: ts → front.count .closeParen ≤ front.count .openParen

/-- Every parenthesis in these tokens has its partner in them. -/
structure Balanced (ts : List Token) : Prop where
  contained : Contained ts
  total : ts.count .openParen = ts.count .closeParen

/-- A parenthesis that opens in these tokens is still open behind them. -/
def Unclosed (ts : List Token) : Prop :=
  ∃ front inner, ts = front ++ .openParen :: inner ∧ Contained inner

theorem contained_nil : Contained [] := by
  intro front isPrefix
  rw [List.prefix_nil.mp isPrefix]
  exact Nat.le_refl _

theorem Contained.append (h : Contained xs) (h' : Contained ys) : Contained (xs ++ ys) := by
  intro front isPrefix
  have whole : xs <+: xs ++ ys := List.prefix_append xs ys
  rcases List.prefix_or_prefix_of_prefix isPrefix whole with inside | ⟨more, rfl⟩
  · exact h front inside
  · have first := h xs List.prefix_rfl
    have behind := h' more ((List.prefix_append_right_inj xs).mp isPrefix)
    simp only [List.count_append]
    omega

theorem Balanced.append (h : Balanced xs) (h' : Balanced ys) : Balanced (xs ++ ys) where
  contained := h.contained.append h'.contained
  total := by
    simp only [List.count_append, h.total, h'.total]

theorem balanced_nil : Balanced [] := ⟨contained_nil, rfl⟩

/-- A token that is no parenthesis is balanced. -/
theorem balanced_singleton {token : Token} (notOpen : token ≠ .openParen)
    (notClose : token ≠ .closeParen) : Balanced [token] where
  contained := by
    intro front isPrefix
    have noClose : front.count .closeParen ≤ [token].count .closeParen := isPrefix.count_le _
    rw [List.count_singleton, if_neg (by simpa using notClose)] at noClose
    omega
  total := by
    simp [notOpen, notClose]

/-- Balanced tokens between parentheses are balanced. -/
theorem Balanced.group (h : Balanced ts) : Balanced (.openParen :: (ts ++ [.closeParen])) where
  contained := by
    intro front isPrefix
    rcases List.prefix_cons_iff.mp isPrefix with rfl | ⟨behind, rfl, within⟩
    · exact Nat.le_refl _
    · simp only [List.count_cons, beq_self_eq_true, if_true]
      rcases List.prefix_concat_iff.mp within with rfl | inside
      · have total := h.total
        simp
        omega
      · have := h.contained behind inside
        simp
        omega
  total := by
    have total := h.total
    simp
    omega

/-- **Balanced tokens leave no parenthesis open.** -/
theorem Balanced.not_unclosed (h : Balanced ts) : ¬ Unclosed ts := by
  rintro ⟨front, inner, rfl, contained⟩
  have before := h.contained front (List.prefix_append front _)
  have behind := contained inner List.prefix_rfl
  have total := h.total
  simp [List.count_append] at total
  omega

/-- **The open parenthesis with balanced tokens behind it is the only one.** -/
theorem Balanced.eq_of_append {front front' inner inner' : List Token} (h : Balanced inner)
    (h' : Balanced inner') (same : front ++ .openParen :: inner = front' ++ .openParen :: inner') :
    front = front' := by
  -- Behind the earlier of two such parentheses the later one would be left open.
  have later {more rest second : List Token} (balanced : Balanced rest)
      (contained : Contained second) (split : .openParen :: rest = more ++ .openParen :: second) :
      more = [] := by
    cases more with
    | nil => rfl
    | cons token more =>
      obtain ⟨-, behind⟩ := List.cons.inj split
      exact absurd ⟨more, second, behind, contained⟩ balanced.not_unclosed
  rcases List.append_eq_append_iff.mp same with ⟨more, rfl, split⟩ | ⟨more, rfl, split⟩
  · rw [later h h'.contained split, List.append_nil]
  · rw [later h' h.contained split, List.append_nil]

end Rulebook.Token
