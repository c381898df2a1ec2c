import Mathlib.Data.List.Nodup
import Rulebook.Execution

/-!
The parts of a rule and their places.

A place is the way from the root to a part. Parts that are equal still have places of their own, so
what is said about a rule part by part is said by places.

* `Place.toText_injective`: no two places have the same text.
* `RuleTree.at?`: the part at a place.
* `RuleTree.places`: the places of all parts, from left to right and each behind those below it.
* `RuleTree.mem_places_iff`, `RuleTree.nodup_places`: every part has its place there, once.
* `RuleTree.placedLeaves`: the conditions with their places, from left to right.
-/

namespace Rulebook

/-! ### The text of a place -/

namespace Place

/-- What a turn adds to the text of a place. -/
def turnText : Side → String
  | .left => ".left"
  | .right => ".right"

theorem toText_eq (p : Place) : toText p = "root" ++ String.join (p.map turnText) := rfl

theorem toText_concat (p : Place) (side : Side) :
    toText (p ++ [side]) = toText p ++ turnText side := by
  rw [toText_eq, toText_eq, List.map_append, String.join_append, String.append_assoc]
  cases side <;> rfl

/-- Turns can be told from their texts in a row. -/
theorem eq_of_flatMap_turnText {p q : Place}
    (same : p.flatMap (fun side => (turnText side).toList) =
      q.flatMap fun side => (turnText side).toList) : p = q := by
  induction p generalizing q with
  | nil =>
    cases q with
    | nil => rfl
    | cons side rest => cases side <;> simp [turnText] at same
  | cons side rest ih =>
    cases q with
    | nil => cases side <;> simp [turnText] at same
    | cons side' rest' =>
      rw [List.flatMap_cons, List.flatMap_cons] at same
      -- The two turns differ in the character behind the point.
      obtain rfl : side = side' := by cases side <;> cases side' <;> simp [turnText] at same ⊢
      rw [ih (List.append_cancel_left same)]

/-- **No two places have the same text.** -/
theorem toText_injective : Function.Injective toText := by
  intro p q same
  rw [toText_eq, toText_eq, String.append_right_inj, ← String.toList_inj, String.toList_join,
    String.toList_join, List.flatMap_map, List.flatMap_map] at same
  exact eq_of_flatMap_turnText same

end Place

namespace RuleTree

variable {t : RuleTree} {p : Place} {c : Condition}

/-! ### Parts -/

/-- The part at a place. -/
def at? : RuleTree → Place → Option RuleTree
  | t, [] => some t
  | node _ left _, .left :: rest => left.at? rest
  | node _ _ right, .right :: rest => right.at? rest
  | leaf _, _ :: _ => none

@[simp] theorem at?_nil (t : RuleTree) : t.at? [] = some t := by
  cases t <;> rfl

@[simp] theorem at?_left (op : Connective) (left right : RuleTree) (rest : Place) :
    (node op left right).at? (.left :: rest) = left.at? rest := rfl

@[simp] theorem at?_right (op : Connective) (left right : RuleTree) (rest : Place) :
    (node op left right).at? (.right :: rest) = right.at? rest := rfl

@[simp] theorem at?_leaf_cons (c : Condition) (side : Side) (rest : Place) :
    (leaf c).at? (side :: rest) = none := by
  cases side <;> rfl

/-- The part at a longer way is found from the part at its beginning. -/
theorem at?_append (t : RuleTree) (p q : Place) :
    t.at? (p ++ q) = (t.at? p).bind fun part => part.at? q := by
  induction p generalizing t with
  | nil => simp
  | cons side rest ih =>
    cases t with
    | leaf c => simp
    | node op left right => cases side <;> simp [ih]

/-- The places of all parts, from left to right and each behind those below it. -/
def places : RuleTree → List Place
  | leaf _ => [[]]
  | node _ left right => left.places.map (.left :: ·) ++ right.places.map (.right :: ·) ++ [[]]

/-- **The places are those that lead to a part.** -/
theorem mem_places_iff : p ∈ t.places ↔ ∃ part, t.at? p = some part := by
  induction t generalizing p with
  | leaf c => cases p <;> simp [places]
  | node op left right ihl ihr =>
    cases p with
    | nil => simp [places]
    | cons side rest => cases side <;> simp [places, ihl, ihr]

/-- **No place is listed twice.** -/
theorem nodup_places (t : RuleTree) : t.places.Nodup := by
  induction t with
  | leaf c => simp [places]
  | node op left right ihl ihr =>
    have below :
        (left.places.map (Side.left :: ·) ++ right.places.map (Side.right :: ·)).Nodup := by
      apply (ihl.map List.cons_injective).append (ihr.map List.cons_injective)
      intro p inLeft inRight
      obtain ⟨_, -, rfl⟩ := List.mem_map.mp inLeft
      simp at inRight
    have root : [] ∉ left.places.map (Side.left :: ·) ++ right.places.map (Side.right :: ·) := by
      simp
    exact below.append (List.nodup_singleton _) (List.disjoint_singleton.mpr root)

/-! ### Conditions -/

/-- The conditions with their places, from left to right. -/
def placedLeaves : RuleTree → List (Place × Condition)
  | leaf c => [([], c)]
  | node _ left right =>
    left.placedLeaves.map (fun x => (.left :: x.1, x.2)) ++
      right.placedLeaves.map (fun x => (.right :: x.1, x.2))

theorem map_snd_placedLeaves (t : RuleTree) : t.placedLeaves.map (·.2) = t.leaves := by
  induction t with
  | leaf c => rfl
  | node op left right ihl ihr =>
    rw [placedLeaves, leaves, ← ihl, ← ihr, List.map_append, List.map_map, List.map_map]
    rfl

theorem mem_placedLeaves_iff : (p, c) ∈ t.placedLeaves ↔ t.at? p = some (leaf c) := by
  induction t generalizing p with
  | leaf d => cases p <;> simp [placedLeaves, eq_comm]
  | node op left right ihl ihr =>
    cases p with
    | nil => simp [placedLeaves]
    | cons side rest => cases side <;> simp [placedLeaves, ihl, ihr]

end RuleTree
end Rulebook
