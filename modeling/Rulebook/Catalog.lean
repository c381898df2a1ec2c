import Std.Data.TreeMap
import Rulebook.RuleError
import Rulebook.RuleRecord

/-!
The catalog: the rules that are kept.

Records are found by their id. They are listed in the order in which their ids were first saved,
and neither saving an id again nor revising its rule moves it.

* `Catalog.save`, `Catalog.revise?`: the two ways to change a catalog.
* `Catalog.get?`, `Catalog.toList`: what it holds, by id and in order.
-/

namespace Rulebook

/-- Rules by id, with the order in which the ids were first saved. -/
structure Catalog where
  /-- The ids in the order of their first save. -/
  order : Array String
  records : Std.TreeMap String RuleRecord
  /-- No id is listed twice. -/
  nodup : order.toList.Nodup
  /-- The ids that are listed are those with a record. -/
  mem_order_iff : ∀ id : String, id ∈ order ↔ id ∈ records
  /-- Every record is kept under its own id. -/
  id_eq : ∀ (id : String) (r : RuleRecord), records[id]? = some r → r.id = id

namespace Catalog

/-- No rules. -/
def empty : Catalog where
  order := #[]
  records := ∅
  nodup := List.nodup_nil
  mem_order_iff := by simp
  id_eq := by simp

instance : Inhabited Catalog := ⟨empty⟩

/-- How many rules there are. -/
def size (c : Catalog) : Nat := c.order.size

/-- The record of an id. -/
def get? (c : Catalog) (id : String) : Option RuleRecord := c.records[id]?

/-- Whether an id has a record. -/
def contains (c : Catalog) (id : String) : Bool := c.records.contains id

/-- The record of an id that has to have one. -/
def require (c : Catalog) (id : String) : Except RuleError RuleRecord :=
  match c.get? id with
  | some record => .ok record
  | none => .error (.notFound id)

/-- The records in the order in which their ids were first saved. -/
def toList (c : Catalog) : List RuleRecord := c.order.toList.filterMap c.get?

/-- Keeps a record under its id, in place of the one that had it. -/
def save (c : Catalog) (record : RuleRecord) : Catalog :=
  if known : record.id ∈ c.records then
    { order := c.order
      records := c.records.insert record.id record
      nodup := c.nodup
      mem_order_iff := fun id => by
        rw [c.mem_order_iff, Std.TreeMap.mem_insert]
        constructor
        · exact .inr
        · rintro (same | mem)
          · rwa [← Std.LawfulEqCmp.eq_of_compare same]
          · exact mem
      id_eq := fun id r found => by
        rw [Std.TreeMap.getElem?_insert] at found
        split at found
        · next same => rw [← Std.LawfulEqCmp.eq_of_compare same]; simp_all
        · exact c.id_eq id r found }
  else
    { order := c.order.push record.id
      records := c.records.insert record.id record
      nodup := by
        rw [Array.toList_push, List.nodup_append]
        refine ⟨c.nodup, by simp, fun a mem b isNew => ?_⟩
        rintro rfl
        have := List.mem_singleton.mp isNew
        subst this
        exact known ((c.mem_order_iff _).mp (Array.mem_toList_iff.mp mem))
      mem_order_iff := fun id => by
        rw [Array.mem_push, c.mem_order_iff, Std.TreeMap.mem_insert, or_comm]
        refine or_congr ⟨?_, ?_⟩ Iff.rfl
        · rintro rfl
          exact Std.ReflCmp.compare_self
        · intro same
          exact (Std.LawfulEqCmp.eq_of_compare same).symm
      id_eq := fun id r found => by
        rw [Std.TreeMap.getElem?_insert] at found
        split at found
        · next same => rw [← Std.LawfulEqCmp.eq_of_compare same]; simp_all
        · exact c.id_eq id r found }

/-- A record with another rule, which is the newer for it; id and time of creation stay. -/
def revised (record : RuleRecord) (draft : RuleDraft) (now : Instant) : RuleRecord :=
  { record with text := draft.text, tree := draft.tree, fields := draft.fields, updatedAt := now }

/-- Gives an id another rule; the id has to have one. -/
def revise (c : Catalog) (id : String) (draft : RuleDraft) (now : Instant) :
    Except RuleError Catalog := do
  let record ← c.require id
  .ok (c.save (revised record draft now))

end Catalog
end Rulebook
