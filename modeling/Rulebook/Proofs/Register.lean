import Rulebook.Collection
import Rulebook.Proofs.Catalog

/-!
The register: a collection of rules in its plainest form.

It is a list of ids with their records. A record with a new id goes to the end, one whose id is
known takes the place of the record before it, and nothing else ever moves. What other collections
do is told by it.

* `Collection.Simulates`: one collection says what another one does; `Simulates.run` takes this from
  one operation to many.
* `Register`: the list, and what is done with it.
* `Catalog.simulates_register`: catalogs say what registers say.
-/

namespace Rulebook

namespace Collection

variable {σ τ : Type} [Collection σ] [Collection τ]

/-- Collections that find the same revise the same rules. -/
theorem map_revise_eq {s : σ} {t : τ} (found : ∀ id, get? s id = get? t id) (id : String)
    (draft : RuleDraft) (now : Instant) :
    (revise s id draft now).map (fun _ => ()) = (revise t id draft now).map fun _ => () := by
  rw [revised_iff, revised_iff, require_eq, require_eq, found]

/-- **Collections that find and list the same say the same, whatever is done.** -/
theorem outcome_eq {s : σ} {t : τ} (found : ∀ id, get? s id = get? t id)
    (listed : toList s = toList t) (op : Operation) : outcome s op = outcome t op := by
  have required (id : String) : require s id = require t id := by
    rw [require_eq, require_eq, found]
  have sized : size s = size t := by
    rw [← length_toList, ← length_toList, listed]
  cases op with
  | add id now text parsed => rfl
  | addCombined id now draft => rfl
  | insert record => rfl
  | update id text parsed now =>
    have both := map_revise_eq found id (.ofParsed text parsed) now
    rw [outcome, outcome]
    cases here : revise s id (.ofParsed text parsed) now <;>
      cases there : revise t id (.ofParsed text parsed) now <;>
        simp_all [Except.map]
  | get id => rw [outcome, outcome, found]
  | require id => rw [outcome, outcome, required]
  | contains id => rw [outcome, outcome, contains_eq, contains_eq, found]
  | list => rw [outcome, outcome, listed]
  | size => rw [outcome, outcome, sized]
  | isEmpty => rw [outcome, outcome, isEmpty_eq, isEmpty_eq, sized]

/-- Related collections stay related, and find and list the same; what they list need be the same
only for as long as the second one `Fits`. -/
structure Simulates (R : σ → τ → Prop) (Fits : τ → Prop) : Prop where
  found : ∀ {s t}, R s t → ∀ id, get? s id = get? t id
  listed : ∀ {s t}, R s t → Fits t → toList s = toList t
  saved : ∀ {s t}, R s t → ∀ record, R (save s record) (save t record)
  revised : ∀ {s s' : σ} {t t' : τ} {id draft now}, R s t → revise s id draft now = .ok s' →
    revise t id draft now = .ok t' → R s' t'
  /-- What fits after an operation fitted before it. -/
  back : ∀ {t : τ} {op}, Fits (after t op) → Fits t

namespace Simulates

variable {R : σ → τ → Prop} {Fits : τ → Prop}

/-- **Related collections stay related, whatever is done.** -/
theorem step (h : Simulates R Fits) {s : σ} {t : τ} (related : R s t) (op : Operation) :
    R (after s op) (after t op) := by
  cases op with
  | add id now text parsed => exact h.saved related _
  | addCombined id now draft => exact h.saved related _
  | insert record => exact h.saved related record
  | update id text parsed now =>
    have both := map_revise_eq (h.found related) id (.ofParsed text parsed) now
    cases here : revise s id (.ofParsed text parsed) now with
    | error e =>
      cases there : revise t id (.ofParsed text parsed) now with
      | error e' => simpa [after, here, there] using related
      | ok t' => simp [here, there, Except.map] at both
    | ok s' =>
      cases there : revise t id (.ofParsed text parsed) now with
      | error e => simp [here, there, Except.map] at both
      | ok t' => simpa [after, here, there] using h.revised related here there
  | get | require | contains | list | size | isEmpty => exact related

theorem fits (h : Simulates R Fits) {t : τ} {ops : List Operation}
    (fits : Fits (afterAll t ops)) : Fits t := by
  induction ops generalizing t with
  | nil => exact fits
  | cons op rest ih => exact h.back (ih fits)

/-- **Related collections say the same of any operations, one after another.** -/
theorem run (h : Simulates R Fits) {s : σ} {t : τ} {ops : List Operation} (related : R s t)
    (fits : Fits (afterAll t ops)) :
    outcomes s ops = outcomes t ops ∧ R (afterAll s ops) (afterAll t ops) := by
  induction ops generalizing s t with
  | nil => exact ⟨rfl, related⟩
  | cons op rest ih =>
    obtain ⟨same, still⟩ := ih (h.step related op) fits
    have first := outcome_eq (h.found related) (h.listed related (h.fits fits)) op
    refine ⟨?_, still⟩
    rw [outcomes, outcomes, first, same]

end Simulates
end Collection

/-! ### The register -/

/-- Ids with their records, in the order in which the ids were first saved. -/
abbrev Register := List (String × RuleRecord)

namespace Register

/-- Puts a record at an id: in place of the one it has, or else behind all others. -/
def put (id : String) (record : RuleRecord) : Register → Register
  | [] => [(id, record)]
  | (known, old) :: rest =>
    if id = known then (id, record) :: rest else (known, old) :: put id record rest

/-- The record of an id. -/
def get? (id : String) : Register → Option RuleRecord
  | [] => none
  | (known, record) :: rest => if id = known then some record else get? id rest

/-- The record of an id that has to have one. -/
def require (reg : Register) (id : String) : Except RuleError RuleRecord :=
  (get? id reg).elim (.error (.notFound id)) .ok

/-- Gives an id another rule; the id has to have one. -/
def revise (reg : Register) (id : String) (draft : RuleDraft) (now : Instant) :
    Except RuleError Register :=
  (reg.require id).map fun record => put id (Catalog.revised record draft now) reg

/-- The ids from left to right. -/
def ids (reg : Register) : List String := reg.map (·.1)

/-- The records from left to right. -/
def records (reg : Register) : List RuleRecord := reg.map (·.2)

theorem mem_ids_iff {id : String} {reg : Register} : id ∈ reg.ids ↔ (get? id reg).isSome := by
  induction reg with
  | nil => simp [ids, get?]
  | cons entry rest ih =>
    obtain ⟨known, record⟩ := entry
    by_cases here : id = known
    · simp [ids, get?, here]
    · simpa [ids, get?, here] using ih

theorem revise_eq_ok_iff {reg next : Register} {id : String} {draft : RuleDraft} {now : Instant} :
    reg.revise id draft now = .ok next ↔
      ∃ record, get? id reg = some record ∧
        next = put id (Catalog.revised record draft now) reg := by
  unfold revise require
  cases get? id reg <;> simp [Except.map, eq_comm]

instance : Collection Register where
  empty := []
  save reg record := put record.id record reg
  revise := revise
  get? reg id := get? id reg
  require := require
  contains reg id := reg.ids.contains id
  toList := records
  size := List.length
  isEmpty := List.isEmpty
  require_eq _ _ := rfl
  contains_eq reg id := by
    rw [Bool.eq_iff_iff, List.contains_iff_mem, mem_ids_iff]
  length_toList _ := List.length_map _
  isEmpty_eq reg := by
    cases reg <;> rfl
  revised_iff reg id draft now := by
    unfold revise
    cases reg.require id <;> rfl

theorem get?_put (id other : String) (record : RuleRecord) (reg : Register) :
    get? other (put id record reg) = if other = id then some record else get? other reg := by
  induction reg with
  | nil => rfl
  | cons entry rest ih =>
    obtain ⟨known, old⟩ := entry
    by_cases here : id = known
    · subst here
      by_cases same : other = id
      · simp [put, get?, same]
      · simp [put, get?, same]
    · by_cases same : other = known
      · have apart : known ≠ id := fun eq => here eq.symm
        simp [put, get?, here, same, apart]
      · simp [put, get?, here, same, ih]

/-- Ids keep their places; a new one goes to the end. -/
theorem ids_put (id : String) (record : RuleRecord) (reg : Register) :
    ids (put id record reg) = if (get? id reg).isSome then reg.ids else reg.ids ++ [id] := by
  induction reg with
  | nil => rfl
  | cons entry rest ih =>
    obtain ⟨known, old⟩ := entry
    by_cases here : id = known
    · subst here
      simp [put, get?, ids]
    · have behind : ids (put id record ((known, old) :: rest)) =
          known :: ids (put id record rest) := by
        simp [put, here, ids]
      rw [behind, ih, get?, if_neg here]
      split <;> rfl

theorem length_put (id : String) (record : RuleRecord) (reg : Register) :
    (put id record reg).length = if (get? id reg).isSome then reg.length else reg.length + 1 := by
  have ids := congrArg List.length (ids_put id record reg)
  simp only [Register.ids, apply_ite List.length, List.length_map, List.length_append,
    List.length_singleton] at ids
  exact ids

/-- No id comes twice, and every record stands under its own id. -/
structure WellKept (reg : Register) : Prop where
  distinct : reg.ids.Nodup
  own : ∀ id record, get? id reg = some record → record.id = id

theorem wellKept_nil : WellKept [] where
  distinct := List.nodup_nil
  own := nofun

theorem WellKept.put {reg : Register} (h : WellKept reg) {id : String} {record : RuleRecord}
    (own : record.id = id) : WellKept (put id record reg) where
  distinct := by
    rw [ids_put]
    split
    · exact h.distinct
    · next new =>
      rw [← mem_ids_iff] at new
      rw [List.nodup_append]
      refine ⟨h.distinct, by simp, ?_⟩
      rintro known mem _ isNew rfl
      rw [List.mem_singleton.mp isNew] at mem
      exact new mem
  own other found kept := by
    rw [get?_put] at kept
    split at kept
    · next same =>
      cases kept
      rw [own, same]
    · exact h.own other found kept

/-- Finding every id in turn comes to the list of the records. -/
theorem filterMap_get? {reg : Register} (distinct : reg.ids.Nodup) :
    reg.ids.filterMap (get? · reg) = reg.records := by
  induction reg with
  | nil => rfl
  | cons entry rest ih =>
    obtain ⟨known, record⟩ := entry
    obtain ⟨new, others⟩ := List.nodup_cons.mp distinct
    have behind : (ids rest).filterMap (get? · ((known, record) :: rest)) = records rest := by
      rw [← ih others]
      refine List.filterMap_congr fun id mem => ?_
      have other : id ≠ known := fun same => new (same ▸ mem)
      rw [get?, if_neg other]
    calc (known :: ids rest).filterMap (get? · ((known, record) :: rest))
      _ = record :: (ids rest).filterMap (get? · ((known, record) :: rest)) :=
        List.filterMap_cons_some (by rw [get?, if_pos rfl])
      _ = record :: records rest := by rw [behind]

theorem WellKept.ids_records {reg : Register} (h : WellKept reg) :
    reg.records.map (·.id) = reg.ids := by
  rw [← filterMap_get? h.distinct, List.map_filterMap]
  have own : ∀ id ∈ reg.ids, (get? id reg).map (·.id) = some id := by
    intro id mem
    obtain ⟨record, found⟩ := Option.isSome_iff_exists.mp (mem_ids_iff.mp mem)
    rw [found, Option.map_some, h.own id record found]
  rw [List.filterMap_congr own, List.filterMap_some]

/-- An operation leaves a register as it is, or puts one record into it. -/
theorem after_cases (reg : Register) (op : Operation) :
    Collection.after reg op = reg ∨
      ∃ id record, Collection.after reg op = put id record reg := by
  cases op with
  | add id now text parsed => exact .inr ⟨_, _, rfl⟩
  | addCombined id now draft => exact .inr ⟨_, _, rfl⟩
  | insert record => exact .inr ⟨_, record, rfl⟩
  | update id text parsed now =>
    cases revised : reg.revise id (.ofParsed text parsed) now with
    | error e =>
      left
      simp [Collection.after, Collection.revise, revised]
    | ok next =>
      obtain ⟨record, -, rfl⟩ := revise_eq_ok_iff.mp revised
      refine .inr ⟨id, Catalog.revised record (.ofParsed text parsed) now, ?_⟩
      simp [Collection.after, Collection.revise, revised]
  | get | require | contains | list | size | isEmpty => exact .inl rfl

/-- The register of operations, from the empty one on. -/
def of (ops : List Operation) : Register := Collection.afterAll [] ops

/-- Registers never get shorter. -/
theorem length_le_after (reg : Register) (op : Operation) :
    reg.length ≤ (Collection.after reg op).length := by
  rcases after_cases reg op with same | ⟨id, record, put⟩
  · exact Nat.le_of_eq (by rw [same])
  · rw [put, length_put]
    split <;> omega

end Register

/-! ### Catalogs say what registers say -/

namespace Catalog

instance : Collection Catalog where
  empty := empty
  save := save
  revise := revise
  get? := get?
  require := require
  contains := contains
  toList := toList
  size := size
  isEmpty c := c.size == 0
  require_eq c id := by
    unfold require
    cases c.get? id <;> rfl
  contains_eq c id := by
    rw [contains, get?, Std.TreeMap.contains_eq_isSome_getElem?]
  length_toList c := by
    have all : ∀ id ∈ c.order.toList, (c.get? id).isSome := fun id mem => isSome_get?_iff.mpr mem
    rw [toList, List.filterMap_length_eq_length.mpr all, size, Array.length_toList]
  isEmpty_eq _ := rfl
  revised_iff c id draft now := by
    unfold revise
    cases c.require id <;> rfl

/-- A catalog has the records of a register, in its order. -/
structure Follows (c : Catalog) (reg : Register) : Prop where
  found : ∀ id, c.get? id = Register.get? id reg
  order : c.order.toList = reg.ids

theorem follows_empty : Follows empty [] where
  found := get?_empty
  order := rfl

theorem Follows.save {c : Catalog} {reg : Register} (h : Follows c reg) (record : RuleRecord) :
    Follows (c.save record) (Register.put record.id record reg) where
  found id := by
    rw [get?_save, Register.get?_put, h.found]
  order := by
    rw [order_save, Register.ids_put, h.found, h.order]

theorem Follows.toList {c : Catalog} {reg : Register} (h : Follows c reg) (kept : reg.WellKept) :
    c.toList = reg.records := by
  have found : c.get? = (Register.get? · reg) := funext h.found
  rw [Catalog.toList, h.order, found, Register.filterMap_get? kept.distinct]

/-- **Catalogs say what registers say.** -/
theorem simulates_register :
    Collection.Simulates (fun (c : Catalog) (reg : Register) => Follows c reg ∧ reg.WellKept)
      fun _ => True where
  found := fun ⟨h, _⟩ => h.found
  listed := fun ⟨h, kept⟩ _ => h.toList kept
  saved := fun ⟨h, kept⟩ record => ⟨h.save record, kept.put rfl⟩
  revised := by
    rintro c c' reg reg' id draft now ⟨h, kept⟩ here there
    obtain ⟨record, found, rfl⟩ := revise_eq_ok_iff.mp here
    obtain ⟨record', found', rfl⟩ := Register.revise_eq_ok_iff.mp there
    obtain rfl : record = record' := Option.some.inj (found.symm.trans ((h.found id).trans found'))
    have own : record.id = id := id_of_get? found
    have saved := h.save (revised record draft now)
    rw [show (revised record draft now).id = id from own] at saved
    exact ⟨saved, kept.put own⟩
  back := fun _ => trivial

end Catalog
end Rulebook
