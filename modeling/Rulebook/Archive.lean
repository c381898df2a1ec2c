import Rulebook.Catalog
import Rulebook.Collection

/-!
The archive: rules that several handles share.

Records are found by their id, in no order of their own. A counter gives each id a number when it is
first saved, and the list is sorted by these numbers whenever it is asked for.

* `Archive`: the records with their numbers, and the counter.
* `Archive.Handle`, `Archive.Memory`: handles, and what they share.
* `Archive.Calls`: operations one after another, through any clones of a handle.
-/

namespace Rulebook

/-- A record with the number of its id. -/
structure Archive.Entry where
  number : UInt64
  record : RuleRecord
  deriving DecidableEq

/-- Rules by id, and the number that the next new id gets. -/
structure Archive where
  entries : Std.TreeMap String Archive.Entry
  next : UInt64

namespace Archive

def empty : Archive := ⟨∅, 0⟩

def size (a : Archive) : Nat := a.entries.size

def isEmpty (a : Archive) : Bool := a.entries.isEmpty

def contains (a : Archive) (id : String) : Bool := a.entries.contains id

def get? (a : Archive) (id : String) : Option RuleRecord := a.entries[id]?.map (·.record)

/-- The record of an id that has to have one. -/
def require (a : Archive) (id : String) : Except RuleError RuleRecord :=
  match a.get? id with
  | some record => .ok record
  | none => .error (.notFound id)

/-- Keeps a record under its id. An id that has a record keeps its number, a new one gets the next;
the counter starts again at zero when it has run through. -/
def save (a : Archive) (record : RuleRecord) : Archive :=
  match a.entries[record.id]? with
  | some entry => { a with entries := a.entries.insert record.id { entry with record } }
  | none =>
    { entries := a.entries.insert record.id { number := a.next, record }, next := a.next + 1 }

/-- Gives an id another rule; the id has to have one. -/
def revise (a : Archive) (id : String) (draft : RuleDraft) (now : Instant) :
    Except RuleError Archive :=
  match a.entries[id]? with
  | some entry =>
    let record := Catalog.revised entry.record draft now
    .ok { a with entries := a.entries.insert id { entry with record } }
  | none => .error (.notFound id)

/-- The records of some entries by number, in whatever order the entries are come by. -/
def inOrder (walk : List Entry) : List RuleRecord :=
  (walk.mergeSort fun a b => a.number ≤ b.number).map (·.record)

/-- The records in the order of the numbers of their ids. -/
def toList (a : Archive) : List RuleRecord := inOrder (a.entries.toList.map (·.2))

instance : Collection Archive where
  empty := empty
  save := save
  revise := revise
  get? := get?
  require := require
  contains := contains
  toList := toList
  size := size
  isEmpty := isEmpty
  require_eq a id := by
    unfold require
    cases a.get? id <;> rfl
  contains_eq a id := by
    rw [contains, get?, Option.isSome_map, Std.TreeMap.contains_eq_isSome_getElem?]
  length_toList a := by
    rw [toList, inOrder, List.length_map, List.length_mergeSort, List.length_map,
      Std.TreeMap.length_toList, size]
  isEmpty_eq a := Std.TreeMap.isEmpty_eq_size_eq_zero
  revised_iff a id draft now := by
    unfold revise require get?
    cases a.entries[id]? <;> rfl

/-! ### Handles -/

/-- Where the entries and the counter of a handle are. A clone has them at the same places. -/
structure Handle where
  entries : Nat
  next : Nat
  deriving DecidableEq

/-- What is at the places of handles. -/
structure Memory where
  entries : Nat → Std.TreeMap String Entry
  next : Nat → UInt64

namespace Memory

/-- The archive that a handle leads to. -/
def read (m : Memory) (h : Handle) : Archive := ⟨m.entries h.entries, m.next h.next⟩

/-- Puts an archive where a handle leads to. -/
def write (m : Memory) (h : Handle) (a : Archive) : Memory where
  entries place := if place = h.entries then a.entries else m.entries place
  next place := if place = h.next then a.next else m.next place

@[simp]
theorem read_write (m : Memory) (h : Handle) (a : Archive) : (m.write h a).read h = a := by
  simp [read, write]

end Memory

/-- `Calls m handles log after`: with the handles there are, operations are done one after another,
each through any of them, and any of them is cloned at any time; the log has what came of each
operation. -/
inductive Calls : Memory → List Handle → List (Operation × Outcome) → Memory → Prop where
  | done {m handles} : Calls m handles [] m
  | clone {m handles h log after} : h ∈ handles → Calls m (h :: handles) log after →
      Calls m handles log after
  | call {m handles h op log after} : h ∈ handles →
      Calls (m.write h (Collection.after (m.read h) op)) handles log after →
      Calls m handles ((op, Collection.outcome (m.read h) op) :: log) after

end Archive
end Rulebook
