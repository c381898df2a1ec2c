import Rulebook.RuleError
import Rulebook.RuleRecord

/-!
Collections of rules, by what can be done with them.

* `Collection`: saving, revising, finding and listing records.
* `Operation`, `Outcome`: one thing that is done, and what comes of it.
* `Collection.after`, `Collection.outcome`: what an operation does to a collection, and what it
  says.
-/

namespace Rulebook

/-- A collection of rules. The fields at the end say how what it answers hangs together. -/
class Collection (σ : Type) where
  empty : σ
  /-- Keeps a record under its id. -/
  save : σ → RuleRecord → σ
  /-- Gives an id another rule, which is the newer for it. -/
  revise : σ → String → RuleDraft → Instant → Except RuleError σ
  get? : σ → String → Option RuleRecord
  /-- The record of an id that has to have one. -/
  require : σ → String → Except RuleError RuleRecord
  contains : σ → String → Bool
  toList : σ → List RuleRecord
  size : σ → Nat
  isEmpty : σ → Bool
  require_eq : ∀ s id, require s id = (get? s id).elim (.error (.notFound id)) .ok
  contains_eq : ∀ s id, contains s id = (get? s id).isSome
  length_toList : ∀ s, (toList s).length = size s
  isEmpty_eq : ∀ s, isEmpty s = (size s == 0)
  /-- A rule is revised where there is one. -/
  revised_iff : ∀ s id draft now,
    (revise s id draft now).map (fun _ => ()) = (require s id).map fun _ => ()

/-- What can be done with a collection. The generated id and the present are part of it. -/
inductive Operation where
  /-- Saves a rule that has been read, under a generated id. -/
  | add (id : String) (now : Instant) (text : String) (parsed : ParsedRule)
  /-- Saves a combination of rules, under a generated id. -/
  | addCombined (id : String) (now : Instant) (draft : RuleDraft)
  | insert (record : RuleRecord)
  | update (id : String) (text : String) (parsed : ParsedRule) (now : Instant)
  | get (id : String)
  | require (id : String)
  | contains (id : String)
  | list
  | size
  | isEmpty
  deriving DecidableEq

/-- What comes of an operation. -/
inductive Outcome where
  | saved (id : String)
  | updated
  | found (record? : Option RuleRecord)
  | required (record : RuleRecord)
  | failed (error : RuleError)
  | contained (known : Bool)
  | listed (records : List RuleRecord)
  | counted (size : Nat)
  | vacant (isEmpty : Bool)
  deriving DecidableEq

namespace Collection

variable {σ : Type} [Collection σ]

/-- The collection after an operation. An update that fails leaves it as it was. -/
def after (s : σ) : Operation → σ
  | .add id now text parsed => save s ((RuleDraft.ofParsed text parsed).record id now)
  | .addCombined id now draft => save s (draft.record id now)
  | .insert record => save s record
  | .update id text parsed now =>
    match revise s id (.ofParsed text parsed) now with
    | .ok next => next
    | .error _ => s
  | _ => s

/-- What comes of an operation. -/
def outcome (s : σ) : Operation → Outcome
  | .add id _ _ _ => .saved id
  | .addCombined id _ _ => .saved id
  | .insert record => .saved record.id
  | .update id text parsed now =>
    match revise s id (.ofParsed text parsed) now with
    | .ok _ => .updated
    | .error e => .failed e
  | .get id => .found (get? s id)
  | .require id =>
    match require s id with
    | .ok record => .required record
    | .error e => .failed e
  | .contains id => .contained (contains s id)
  | .list => .listed (toList s)
  | .size => .counted (size s)
  | .isEmpty => .vacant (isEmpty s)

/-- The collection after several operations. -/
def afterAll (s : σ) (ops : List Operation) : σ := ops.foldl after s

/-- What comes of several operations, one after another. -/
def outcomes (s : σ) : List Operation → List Outcome
  | [] => []
  | op :: rest => outcome s op :: outcomes (after s op) rest

end Collection
end Rulebook
