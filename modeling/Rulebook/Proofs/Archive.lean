import Mathlib.Algebra.Group.Nat.Defs
import Mathlib.Data.List.Nodup
import Rulebook.Archive
import Rulebook.Proofs.Register

/-!
Archives say what registers say.

The number of an id is the place of its record in the register: numbers are given out in the order
of first saves, and neither saving an id again nor revising its rule touches them. So the list by
number is the register, for as long as the counter has not run through.

* `Register.numbered?`: the number and the record that an id is to have.
* `Archive.Numbers`: an archive has exactly these; `Numbers.put` is the step.
* `Archive.Numbers.inOrder`: the entries by number are the register, in whatever order they are come
  by.
* `Archive.Calls.run`: what is done through clones of a handle is done to one archive.
* `Archive.calls_answer_as_register`: whatever is done through clones of a handle, the answers are
  those of a register.
-/

namespace Rulebook

/-! ### Places as numbers -/

namespace Register

/-- The entry of an id, if its number is the place of its record; places count from `start`. -/
def numbered? (id : String) : Nat → Register → Option Archive.Entry
  | _, [] => none
  | start, (known, record) :: rest =>
    if id = known then some ⟨.ofNat start, record⟩ else numbered? id (start + 1) rest

/-- The ids with their entries, in order. -/
def entries : Nat → Register → List (String × Archive.Entry)
  | _, [] => []
  | start, (id, record) :: rest => (id, ⟨.ofNat start, record⟩) :: entries (start + 1) rest

theorem record_numbered? (id : String) (start : Nat) (reg : Register) :
    (numbered? id start reg).map (·.record) = get? id reg := by
  induction reg generalizing start with
  | nil => rfl
  | cons entry rest ih =>
    obtain ⟨known, record⟩ := entry
    by_cases here : id = known
    · simp [numbered?, get?, here]
    · simp [numbered?, get?, here, ih]

/-- The number that an id has or else gets. -/
def number (id : String) (start : Nat) (reg : Register) : UInt64 :=
  ((numbered? id start reg).map (·.number)).getD (.ofNat (start + reg.length))

/-- A record that is put at an id has the number of the id; the other numbers stay. -/
theorem numbered?_put (id other : String) (record : RuleRecord) (start : Nat) (reg : Register) :
    numbered? other start (put id record reg) =
      if other = id then some ⟨number id start reg, record⟩ else numbered? other start reg := by
  induction reg generalizing start with
  | nil => rfl
  | cons entry rest ih =>
    obtain ⟨known, old⟩ := entry
    by_cases here : id = known
    · subst here
      by_cases same : other = id
      · simp [put, numbered?, number, same]
      · simp [put, numbered?, same]
    · have later : number id start ((known, old) :: rest) = number id (start + 1) rest := by
        have places : start + (rest.length + 1) = start + 1 + rest.length := by omega
        simp [number, numbered?, here, places]
      by_cases same : other = known
      · have apart : known ≠ id := fun eq => here eq.symm
        simp [put, numbered?, here, same, apart]
      · simp [put, numbered?, here, same, ih, later]

theorem ids_entries (start : Nat) (reg : Register) :
    (entries start reg).map (·.1) = reg.ids := by
  induction reg generalizing start with
  | nil => rfl
  | cons entry rest ih => exact congrArg (entry.1 :: ·) (ih (start + 1))

theorem records_entries (start : Nat) (reg : Register) :
    (entries start reg).map (·.2.record) = reg.records := by
  induction reg generalizing start with
  | nil => rfl
  | cons entry rest ih => exact congrArg (entry.2 :: ·) (ih (start + 1))

theorem mem_entries_iff {id : String} {entry : Archive.Entry} {start : Nat} {reg : Register}
    (distinct : reg.ids.Nodup) :
    (id, entry) ∈ entries start reg ↔ numbered? id start reg = some entry := by
  induction reg generalizing start with
  | nil => simp [entries, numbered?]
  | cons first rest ih =>
    obtain ⟨known, record⟩ := first
    obtain ⟨new, others⟩ := List.nodup_cons.mp distinct
    rw [entries, List.mem_cons, ih others, numbered?]
    by_cases here : id = known
    · subst here
      have unlisted : numbered? id (start + 1) rest = none := by
        rw [← Option.map_eq_none_iff, record_numbered?, ← Option.not_isSome_iff_eq_none,
          ← mem_ids_iff]
        exact new
      simp [unlisted, eq_comm]
    · simp [here]

theorem exists_place_of_mem {listed : String × Archive.Entry} {start : Nat} {reg : Register}
    (mem : listed ∈ entries start reg) :
    ∃ place, start ≤ place ∧ place < start + reg.length ∧ listed.2.number = .ofNat place := by
  induction reg generalizing start with
  | nil => cases mem
  | cons first rest ih =>
    rw [List.length_cons]
    rcases List.mem_cons.mp mem with rfl | later
    · exact ⟨start, Nat.le_refl start, by omega, rfl⟩
    · obtain ⟨place, above, below, number⟩ := ih later
      exact ⟨place, by omega, by omega, number⟩

/-- Later places have greater numbers, for as long as there are numbers. -/
theorem pairwise_entries {start : Nat} {reg : Register} (few : start + reg.length ≤ 2 ^ 64) :
    (entries start reg).Pairwise fun a b => a.2.number < b.2.number := by
  induction reg generalizing start with
  | nil => exact .nil
  | cons first rest ih =>
    rw [List.length_cons] at few
    refine .cons (fun later mem => ?_) (ih (by omega))
    obtain ⟨place, above, below, number⟩ := exists_place_of_mem mem
    have numbers : UInt64.size = 2 ^ 64 := rfl
    rw [number, UInt64.lt_iff_toNat_lt, UInt64.toNat_ofNat_of_lt', UInt64.toNat_ofNat_of_lt']
    · exact above
    · omega
    · omega

end Register

namespace Archive

/-! ### What an archive holds -/

/-- An archive has the records of a register, and their places for numbers. -/
structure Numbers (a : Archive) (reg : Register) : Prop where
  next : a.next = .ofNat reg.length
  entries : ∀ id, a.entries[id]? = Register.numbered? id 0 reg

theorem numbers_empty : Numbers .empty [] where
  next := rfl
  entries id := by simp [empty, Register.numbered?]

namespace Numbers

variable {a : Archive} {reg : Register}

theorem get?_eq (h : Numbers a reg) (id : String) : a.get? id = Register.get? id reg := by
  rw [get?, h.entries, Register.record_numbered?]

/-- **A record that gets the number of its id keeps archive and register in step.** -/
theorem put (h : Numbers a reg) (id : String) (record : RuleRecord) {next : UInt64}
    (counted : next = .ofNat (Register.put id record reg).length) :
    Numbers ⟨a.entries.insert id ⟨Register.number id 0 reg, record⟩, next⟩
      (Register.put id record reg) where
  next := counted
  entries other := by
    rw [Std.TreeMap.getElem?_insert, Register.numbered?_put, h.entries]
    simp only [Std.LawfulEqCmp.compare_eq_iff_eq, @eq_comm _ id]

/-- A record that replaces another one keeps its number. -/
theorem replace (h : Numbers a reg) {id : String} {entry : Entry}
    (known : a.entries[id]? = some entry) (record : RuleRecord) :
    Numbers { a with entries := a.entries.insert id { entry with record } }
      (Register.put id record reg) := by
  rw [h.entries] at known
  have number : Register.number id 0 reg = entry.number := by
    simp [Register.number, known]
  have length : (Register.put id record reg).length = reg.length := by
    rw [Register.length_put, ← Register.record_numbered? id 0, known]
    rfl
  rw [← number]
  exact h.put id record (by rw [h.next, length])

/-- A record with a new id gets the next number. -/
theorem append (h : Numbers a reg) {id : String} (new : a.entries[id]? = none)
    (record : RuleRecord) :
    Numbers ⟨a.entries.insert id ⟨a.next, record⟩, a.next + 1⟩ (Register.put id record reg) := by
  rw [h.entries] at new
  have number : Register.number id 0 reg = a.next := by
    simp [Register.number, new, h.next]
  have length : (Register.put id record reg).length = reg.length + 1 := by
    rw [Register.length_put, ← Register.record_numbered? id 0, new]
    rfl
  have counted : a.next + 1 = .ofNat (Register.put id record reg).length := by
    rw [length, h.next, UInt64.ofNat_add]
    rfl
  have appended := h.put id record counted
  rwa [number] at appended

theorem save (h : Numbers a reg) (record : RuleRecord) :
    Numbers (a.save record) (Register.put record.id record reg) := by
  cases found : a.entries[record.id]? with
  | some entry =>
    simp only [Archive.save, found]
    exact h.replace found record
  | none =>
    simp only [Archive.save, found]
    exact h.append found record

/-- The entries are those of the register, in an order of their own. -/
theorem perm_entries (h : Numbers a reg) (distinct : reg.ids.Nodup) :
    a.entries.toList.Perm (Register.entries 0 reg) := by
  have here : a.entries.toList.Nodup := by
    refine Std.TreeMap.distinct_keys_toList.imp fun apart same => apart ?_
    rw [same]
    exact Std.ReflCmp.compare_self
  have there : (Register.entries 0 reg).Nodup := by
    have ids : ((Register.entries 0 reg).map (·.1)).Nodup := by
      rwa [Register.ids_entries]
    exact ids.of_map
  refine (List.perm_ext_iff_of_nodup here there).mpr fun ⟨id, entry⟩ => ?_
  rw [Std.TreeMap.mem_toList_iff_getElem?_eq_some, h.entries, Register.mem_entries_iff distinct]

/-- **The entries by number are the register, in whatever order they are come by.** -/
theorem inOrder (h : Numbers a reg) (distinct : reg.ids.Nodup) (few : reg.length ≤ 2 ^ 64)
    {walk : List Entry} (all : walk.Perm (a.entries.toList.map (·.2))) :
    Archive.inOrder walk = reg.records := by
  set listed : List Entry := (Register.entries 0 reg).map (·.2) with listed_def
  set sorted : List Entry := walk.mergeSort fun a b => a.number ≤ b.number with sorted_def
  have perm : sorted.Perm listed :=
    (List.mergeSort_perm _ _).trans (all.trans ((h.perm_entries distinct).map _))
  have rising : listed.Pairwise fun a b => a.number < b.number := by
    rw [listed_def, List.pairwise_map]
    exact Register.pairwise_entries (by omega)
  -- No number comes twice, so an order by `≤` is one by `<`, and there is but one such order.
  have apart : sorted.Pairwise fun a b => a.number ≠ b.number :=
    (perm.pairwise_iff fun ne => ne.symm).mpr (rising.imp UInt64.ne_of_lt)
  have sortedRising : sorted.Pairwise fun a b => a.number < b.number := by
    have weak : sorted.Pairwise fun a b => a.number ≤ b.number := by
      have transitive (a b c : Entry) : decide (a.number ≤ b.number) = true →
          decide (b.number ≤ c.number) = true → decide (a.number ≤ c.number) = true := by
        simpa using UInt64.le_trans
      have total (a b : Entry) :
          (decide (a.number ≤ b.number) || decide (b.number ≤ a.number)) = true := by
        simpa using UInt64.le_total a.number b.number
      simpa using List.pairwise_mergeSort transitive total walk
    exact (weak.and apart).imp fun ⟨le, ne⟩ => UInt64.lt_of_le_of_ne le ne
  have same : sorted = listed :=
    perm.eq_of_pairwise (fun a b _ _ lt gt => absurd gt (UInt64.lt_asymm lt)) sortedRising rising
  rw [Archive.inOrder, ← sorted_def, same, listed_def, List.map_map]
  exact Register.records_entries 0 reg

end Numbers
/-- **Archives say what registers say,** for as long as there are numbers for new ids. -/
theorem simulates_register :
    Collection.Simulates (fun (a : Archive) (reg : Register) => Numbers a reg ∧ reg.WellKept)
      fun reg => reg.length ≤ 2 ^ 64 where
  found := fun ⟨h, _⟩ => h.get?_eq
  listed := fun ⟨h, kept⟩ few => h.inOrder kept.distinct few (.refl _)
  saved := fun ⟨h, kept⟩ record => ⟨h.save record, kept.put rfl⟩
  revised := by
    rintro a a' reg reg' id draft now ⟨h, kept⟩ here there
    obtain ⟨record, found, rfl⟩ := Register.revise_eq_ok_iff.mp there
    have own : record.id = id := kept.own id record found
    rw [← h.get?_eq] at found
    obtain ⟨entry, known, rfl⟩ := Option.map_eq_some_iff.mp found
    have replaced : a' = { a with entries := a.entries.insert id { entry with
        record := Catalog.revised entry.record draft now } } := by
      simpa [Collection.revise, revise, known, eq_comm] using here
    rw [replaced]
    exact ⟨h.replace known _, kept.put own⟩
  back := fun {reg op} few => Nat.le_trans (Register.length_le_after reg op) few

/-! ### Through handles -/

/-- **What is done through clones of a handle is done to one archive.** -/
theorem Calls.run {m after : Memory} {handles : List Handle} {log : List (Operation × Outcome)}
    (calls : Calls m handles log after) {origin : Handle} (clones : ∀ h ∈ handles, h = origin) :
    log.map (·.2) = Collection.outcomes (m.read origin) (log.map (·.1)) ∧
      after.read origin = Collection.afterAll (m.read origin) (log.map (·.1)) := by
  induction calls with
  | done => exact ⟨rfl, rfl⟩
  | @clone m handles h log after known _ ih =>
    refine ih fun other mem => ?_
    rcases List.mem_cons.mp mem with rfl | mem
    · exact clones other known
    · exact clones other mem
  | @call m handles h op log after known _ ih =>
    obtain rfl := clones h known
    obtain ⟨said, reached⟩ := ih clones
    rw [Memory.read_write] at said reached
    refine ⟨?_, reached⟩
    rw [List.map_cons, List.map_cons, Collection.outcomes, said]

/-- Any operations can be done, each through a new clone of a handle. -/
theorem exists_calls (m : Memory) {h : Handle} {handles : List Handle} (mem : h ∈ handles)
    (ops : List Operation) : ∃ log after, log.map (·.1) = ops ∧ Calls m handles log after := by
  induction ops generalizing m handles with
  | nil => exact ⟨[], m, rfl, .done⟩
  | cons op rest ih =>
    obtain ⟨log, after, done, calls⟩ :=
      ih (m.write h (Collection.after (m.read h) op)) (List.mem_cons_of_mem h mem)
    exact ⟨(op, Collection.outcome (m.read h) op) :: log, after, congrArg (op :: ·) done,
      .clone mem (.call (List.mem_cons_of_mem h mem) calls)⟩

/-- **The answers are those of a register.** From an empty archive on, operations are done through
clones of one handle, and no more new ids are saved than there are numbers. Then

* what comes of each operation is what comes of it in a register, and in a catalog;
* the entries by number are the register, in whatever order they are come by;
* the list has no id twice and is as long as the archive says, and every record is found under its
  own id. -/
theorem calls_answer_as_register {m after : Memory} {origin : Handle}
    {log : List (Operation × Outcome)} (empty : m.read origin = .empty)
    (calls : Calls m [origin] log after) (few : (Register.of (log.map (·.1))).length ≤ 2 ^ 64) :
    log.map (·.2) = Collection.outcomes ([] : Register) (log.map (·.1)) ∧
      log.map (·.2) = Collection.outcomes Catalog.empty (log.map (·.1)) ∧
      (∀ walk, walk.Perm ((after.read origin).entries.toList.map (·.2)) →
        inOrder walk = (Register.of (log.map (·.1))).records) ∧
      ((after.read origin).toList.map (·.id)).Nodup ∧
      (after.read origin).toList.length = (after.read origin).size ∧
      ∀ id record, (after.read origin).get? id = some record → record.id = id := by
  have only : ∀ h ∈ [origin], h = origin := fun h mem => List.mem_singleton.mp mem
  obtain ⟨said, reached⟩ := calls.run only
  rw [empty] at said reached
  obtain ⟨same, related⟩ := simulates_register.run ⟨numbers_empty, Register.wellKept_nil⟩ few
  rw [← reached] at related
  have numbers : Numbers (after.read origin) (Register.of (log.map (·.1))) := related.1
  have kept : (Register.of (log.map (·.1))).WellKept := related.2
  have catalog : Collection.outcomes Catalog.empty (log.map (·.1)) =
      Collection.outcomes ([] : Register) (log.map (·.1)) :=
    (Catalog.simulates_register.run ⟨Catalog.follows_empty, Register.wellKept_nil⟩ trivial).1
  have sorted {walk : List Entry} (all : walk.Perm ((after.read origin).entries.toList.map (·.2))) :
      inOrder walk = (Register.of (log.map (·.1))).records :=
    numbers.inOrder kept.distinct few all
  refine ⟨said.trans same, said.trans (same.trans catalog.symm), fun walk => sorted, ?_,
    Collection.length_toList (after.read origin), fun id record found => ?_⟩
  · rw [toList, sorted (.refl _), kept.ids_records]
    exact kept.distinct
  · rw [numbers.get?_eq] at found
    exact kept.own id record found

/-- A rule that looks at one field. -/
def sample (field : String) : ParsedRule := ⟨.leaf ⟨field, .equal, "1"⟩, [field]⟩

/-- Two new ids, an update of the first one, which does not move it, and one of an unknown id. -/
def updates : List Operation :=
  [.add "@0" default "a = 1" (sample "a"), .add "@1" default "b = 1" (sample "b"),
    .update "@0" "c = 1" (sample "c") default, .update "@2" "d = 1" (sample "d") default, .size]

/-- The updates through clones, from an empty memory on. -/
theorem updates_in_place : ∃ log after,
    log.map (·.1) = updates ∧ Calls ⟨fun _ => ∅, fun _ => 0⟩ [⟨0, 0⟩] log after ∧
      log.map (·.2) =
        [.saved "@0", .saved "@1", .updated, .failed (.notFound "@2"), .counted 2] ∧
      (after.read ⟨0, 0⟩).toList.map (·.text) = ["c = 1", "b = 1"] := by
  obtain ⟨log, after, done, calls⟩ :=
    exists_calls ⟨fun _ => ∅, fun _ => 0⟩ (List.mem_singleton_self (⟨0, 0⟩ : Handle)) updates
  have few : (Register.of (log.map (·.1))).length ≤ 2 ^ 64 := by
    rw [done]
    decide +kernel
  obtain ⟨said, -, sorted, -⟩ := calls_answer_as_register rfl calls few
  rw [done] at said sorted
  refine ⟨log, after, done, calls, said.trans (by decide +kernel), ?_⟩
  rw [toList, sorted _ (.refl _)]
  decide +kernel

end Archive
end Rulebook
