import Rulebook.Json.Basic

/-!
Equality of JSON values can be decided.

* `Json.same`: a comparison of two values, part by part.
* `Json.same_iff`: it holds exactly of equal values, so what is read from a text can be checked.
-/

namespace Rulebook.Json

mutual

/-- Compares two values part by part. -/
def same : Json → Json → Bool
  | null, null => true
  | bool a, bool b => a == b
  | number m, number n => m == n
  | string s, string t => s == t
  | array xs, array ys => sameItems xs ys
  | object ms, object ns => sameMembers ms ns
  | _, _ => false

/-- `same` on the items of two arrays. -/
def sameItems : List Json → List Json → Bool
  | [], [] => true
  | x :: xs, y :: ys => same x y && sameItems xs ys
  | _, _ => false

/-- `same` on the members of two objects, names included. -/
def sameMembers : List (String × Json) → List (String × Json) → Bool
  | [], [] => true
  | (k, v) :: ms, (l, w) :: ns => k == l && same v w && sameMembers ms ns
  | _, _ => false

end

mutual

/-- **Exactly equal values are the same.** -/
theorem same_iff : (a b : Json) → (same a b = true ↔ a = b)
  | .null, b => by cases b <;> simp [same]
  | .bool a, b => by cases b <;> simp [same]
  | .number m, b => by cases b <;> simp [same]
  | .string s, b => by cases b <;> simp [same]
  | .array xs, b => by
    cases b with
    | array ys => rw [same, sameItems_iff xs ys, array.injEq]
    | _ => simp [same]
  | .object ms, b => by
    cases b with
    | object ns => rw [same, sameMembers_iff ms ns, object.injEq]
    | _ => simp [same]

theorem sameItems_iff : (xs ys : List Json) → (sameItems xs ys = true ↔ xs = ys)
  | [], ys => by cases ys <;> simp [sameItems]
  | x :: xs, ys => by
    cases ys with
    | nil => simp [sameItems]
    | cons y ys =>
      rw [sameItems, Bool.and_eq_true, same_iff x y, sameItems_iff xs ys, List.cons.injEq]

theorem sameMembers_iff :
    (ms ns : List (String × Json)) → (sameMembers ms ns = true ↔ ms = ns)
  | [], ns => by cases ns <;> simp [sameMembers]
  | (k, v) :: ms, ns => by
    cases ns with
    | nil => simp [sameMembers]
    | cons member ns =>
      obtain ⟨l, w⟩ := member
      rw [sameMembers, Bool.and_eq_true, Bool.and_eq_true, beq_iff_eq, same_iff v w,
        sameMembers_iff ms ns, List.cons.injEq, Prod.mk.injEq]

end

instance : DecidableEq Json := fun a b => decidable_of_iff _ (same_iff a b)

end Rulebook.Json
