import Mathlib.Data.List.Forall2
import Rulebook.Catalog

/-!
What a catalog holds after it has been changed.

* `Catalog.get?_save`: saving a record changes what is found under its own id, and nothing else.
* `Catalog.mapM_require_eq_ok_iff`: the records of several ids, all of which have to have one.
* `Catalog.mem_toList_iff`: the list has the records that are found.
* `Catalog.toList_save_of_new`, `Catalog.exists_toList_save`: a new record goes to the end of the
  list, one whose id is known takes the place of the record before it.
-/

namespace Rulebook.Catalog

@[simp] theorem get?_empty (id : String) : empty.get? id = none := by
  simp [empty, get?]

theorem id_of_get? {c : Catalog} {id : String} {record : RuleRecord}
    (found : c.get? id = some record) : record.id = id :=
  c.id_eq id record found

/-- **A saved record is found under its id; under other ids nothing changes.** -/
theorem get?_save (c : Catalog) (record : RuleRecord) (id : String) :
    (c.save record).get? id = if id = record.id then some record else c.get? id := by
  have records : (c.save record).records = c.records.insert record.id record := by
    unfold save
    split <;> rfl
  unfold get?
  rw [records, Std.TreeMap.getElem?_insert]
  simp only [Std.LawfulEqCmp.compare_eq_iff_eq, @eq_comm _ record.id]

theorem get?_save_self (c : Catalog) (record : RuleRecord) :
    (c.save record).get? record.id = some record := by
  rw [get?_save, if_pos rfl]

theorem require_eq_ok_iff {c : Catalog} {id : String} {record : RuleRecord} :
    c.require id = .ok record ↔ c.get? id = some record := by
  unfold require
  cases c.get? id <;> simp

theorem require_of_get?_eq_none {c : Catalog} {id : String} (missing : c.get? id = none) :
    c.require id = .error (.notFound id) := by
  simp [require, missing]

/-- There is no other reason to refuse an id. -/
theorem eq_notFound_of_require {c : Catalog} {id : String} {e : RuleError}
    (h : c.require id = .error e) : e = .notFound id := by
  cases found : c.get? id with
  | none =>
    rw [require_of_get?_eq_none found] at h
    cases h
    rfl
  | some record =>
    rw [require_eq_ok_iff.mpr found] at h
    cases h

/-- The records of several ids are those of each. -/
theorem mapM_require_eq_ok_iff {c : Catalog} {ids : List String} {records : List RuleRecord} :
    ids.mapM c.require = .ok records ↔
      List.Forall₂ (fun id record => c.get? id = some record) ids records := by
  induction ids generalizing records with
  | nil => simp [pure, Except.pure, eq_comm]
  | cons id rest ih =>
    rw [List.mapM_cons, List.forall₂_cons_left_iff]
    constructor
    · intro read
      cases first : c.require id with
      | error e => simp [first, bind, Except.bind] at read
      | ok record =>
        cases others : rest.mapM c.require with
        | error e => simp [first, others, bind, Except.bind] at read
        | ok more =>
          simp only [first, others, bind, Except.bind, pure, Except.pure, Except.ok.injEq] at read
          exact ⟨record, more, require_eq_ok_iff.mp first, ih.mp others, read.symm⟩
    · rintro ⟨record, more, first, others, rfl⟩
      rw [require_eq_ok_iff.mpr first, ih.mpr others]
      rfl

/-- A rule is revised where there is one. -/
theorem revise_eq_ok_iff {c next : Catalog} {id : String} {draft : RuleDraft} {now : Instant} :
    c.revise id draft now = .ok next ↔
      ∃ record, c.get? id = some record ∧ next = c.save (revised record draft now) := by
  simp only [← require_eq_ok_iff, revise]
  cases c.require id with
  | error e => simp [bind, Except.bind]
  | ok record => simp [bind, Except.bind, eq_comm]

theorem eq_notFound_of_revise {c : Catalog} {id : String} {e : RuleError}
    {draft : RuleDraft} {now : Instant} (h : c.revise id draft now = .error e) : e = .notFound id := by
  cases required : c.require id with
  | error e' =>
    rw [revise, required] at h
    cases h
    exact eq_notFound_of_require required
  | ok record =>
    rw [revise, required] at h
    cases h

/-! ### The list of records -/

theorem isSome_get?_iff {c : Catalog} {id : String} :
    (c.get? id).isSome = true ↔ id ∈ c.order.toList := by
  rw [Array.mem_toList_iff, c.mem_order_iff, get?, Std.TreeMap.isSome_getElem?_iff_mem]

/-- The list has exactly the records that are found under their ids. -/
theorem mem_toList_iff {c : Catalog} {record : RuleRecord} :
    record ∈ c.toList ↔ c.get? record.id = some record := by
  rw [toList, List.mem_filterMap]
  constructor
  · rintro ⟨id, -, found⟩
    rwa [id_of_get? found]
  · intro found
    exact ⟨record.id, isSome_get?_iff.mp (by rw [found]; rfl), found⟩

theorem order_save (c : Catalog) (record : RuleRecord) :
    (c.save record).order.toList =
      if (c.get? record.id).isSome then c.order.toList else c.order.toList ++ [record.id] := by
  have known : (c.get? record.id).isSome = true ↔ record.id ∈ c.records := by
    rw [get?, Std.TreeMap.isSome_getElem?_iff_mem]
  unfold save
  split
  · next mem => rw [if_pos (known.mpr mem)]
  · next new => rw [if_neg (fun found => new (known.mp found)), Array.toList_push]

theorem size_save (c : Catalog) (record : RuleRecord) :
    (c.save record).size = if (c.get? record.id).isSome then c.size else c.size + 1 := by
  rw [size, ← Array.length_toList, order_save, size, ← Array.length_toList]
  split
  · rfl
  · rw [List.length_append, List.length_singleton]

/-- Where an id is not among some others, saving its record does not change what they have. -/
theorem filterMap_get?_save {c : Catalog} {record : RuleRecord} {ids : List String}
    (other : record.id ∉ ids) : ids.filterMap (c.save record).get? = ids.filterMap c.get? := by
  refine List.filterMap_congr fun id mem => ?_
  rw [get?_save, if_neg]
  rintro rfl
  exact other mem

/-- **A record with a new id goes to the end of the list.** -/
theorem toList_save_of_new {c : Catalog} {record : RuleRecord} (new : c.get? record.id = none) :
    (c.save record).toList = c.toList ++ [record] := by
  have unlisted : record.id ∉ c.order.toList := by
    rw [← isSome_get?_iff, new]
    nofun
  rw [toList, order_save, new, Option.isSome_none, if_neg Bool.false_ne_true,
    List.filterMap_append, filterMap_get?_save unlisted, List.filterMap_cons_some (get?_save_self ..)]
  rfl

/-- **A record with a known id takes the place of the record before it.** -/
theorem exists_toList_save {c : Catalog} {record old : RuleRecord}
    (known : c.get? record.id = some old) : ∃ front back,
      c.toList = front ++ old :: back ∧ (c.save record).toList = front ++ record :: back := by
  have listed : record.id ∈ c.order.toList := isSome_get?_iff.mp (by rw [known]; rfl)
  obtain ⟨before, after, order⟩ := List.append_of_mem listed
  -- No id is listed twice, so the records before and after it stay as they are.
  have distinct := c.nodup
  rw [order, List.nodup_append, List.nodup_cons] at distinct
  obtain ⟨-, ⟨notAfter, -⟩, apart⟩ := distinct
  have notBefore : record.id ∉ before := fun mem => apart _ mem _ List.mem_cons_self rfl
  refine ⟨before.filterMap c.get?, after.filterMap c.get?, ?_, ?_⟩
  · rw [toList, order, List.filterMap_append, List.filterMap_cons_some known]
  · rw [toList, order_save, known, Option.isSome_some, if_pos rfl, order, List.filterMap_append,
      List.filterMap_cons_some (get?_save_self ..), filterMap_get?_save notBefore,
      filterMap_get?_save notAfter]

end Rulebook.Catalog
