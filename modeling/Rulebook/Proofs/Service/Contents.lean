import Mathlib.Logic.Function.Basic
import Rulebook.Proofs.Service.Outcome

/-!
What a shelf holds, times aside, and what a command puts into it.

Two runs that differ in their clocks leave different records, but the same contents. What a command
is answered and what it puts into a shelf depends on the contents alone, and of them only on the ids
that the command names and, if it keeps a new rule, on the number of ids that have been given out.

* `Contents`, `Shelf.contents`: ids in their order, drafts, and how many ids have been given out.
* `Contents.put_comm`: drafts of different ids may be put in in either order.
* `Entry`, `Shelf.entry`: what a command puts in; `Shelf.contents_perform`: and nothing else.
* `Scope`, `Command.scope`: the ids that a command names and whether it may keep a new rule.
* `Shelf.entry_within`, `Shelf.perform_congr`: a command stays within its scope, and its answer and
  entry are the same where that is.
-/

namespace Rulebook

/-! ### Contents -/

/-- A rule as it is kept, without its id and its times. -/
def RuleRecord.draft (r : RuleRecord) : RuleDraft :=
  { text := r.text, tree := r.tree, fields := r.fields }

/-- What a shelf holds, times aside. -/
@[ext]
structure Contents where
  /-- The ids in the order in which they were first saved. -/
  order : List String
  /-- The rules, by id. -/
  drafts : String → Option RuleDraft
  /-- How many ids have been given out. -/
  issued : Nat

namespace Contents

/-- Puts a draft at an id: in place of the one that it has, or else behind all others. -/
def put (v : Contents) (id : String) (draft : RuleDraft) : Contents :=
  { v with
    order := if (v.drafts id).isSome then v.order else v.order ++ [id]
    drafts := Function.update v.drafts id (some draft) }

/-- The rules in their order, with their ids. -/
def list (v : Contents) : List (String × RuleDraft) :=
  v.order.filterMap fun id => (v.drafts id).map (id, ·)

theorem drafts_put_of_ne {v : Contents} {id other : String} (draft : RuleDraft) (apart : other ≠ id) :
    (v.put id draft).drafts other = v.drafts other :=
  Function.update_of_ne apart _ _

/-- **Drafts of different ids may be put in in either order,** if one of the ids has a rule: then
only the other can go to the end. -/
theorem put_comm {v : Contents} {id id' : String} (draft draft' : RuleDraft) (apart : id ≠ id')
    (known : (v.drafts id').isSome = true) :
    (v.put id draft).put id' draft' = (v.put id' draft').put id draft := by
  have knownThen : ((v.put id draft).drafts id').isSome = true := by
    rwa [drafts_put_of_ne draft apart.symm]
  ext1
  · have here : (v.put id' draft').order = v.order := if_pos known
    have there : ((v.put id draft).put id' draft').order = (v.put id draft).order := if_pos knownThen
    rw [there, put, put, drafts_put_of_ne draft' apart, here]
  · exact (Function.update_comm apart _ _ _)
  · rfl

end Contents

namespace Shelf

/-- What a shelf holds, times aside. -/
def contents (s : Shelf) : Contents where
  order := s.catalog.order.toList
  drafts id := (s.catalog.get? id).map RuleRecord.draft
  issued := s.issued

theorem drafts_contents (s : Shelf) (id : String) :
    s.contents.drafts id = (s.catalog.get? id).map RuleRecord.draft := rfl

/-- Saving a record puts in its draft. -/
theorem contents_save (s : Shelf) (record : RuleRecord) :
    contents { s with catalog := s.catalog.save record } = s.contents.put record.id record.draft := by
  ext1
  · simp only [contents, Contents.put, Catalog.order_save, Option.isSome_map]
  · funext id
    simp only [contents, Contents.put, Catalog.get?_save, Function.update_apply]
    split <;> rfl
  · rfl

/-- The list of records, times aside, is that of the contents. -/
theorem list_contents (s : Shelf) :
    s.catalog.toList.map (fun r => (r.id, r.draft)) = s.contents.list := by
  rw [Catalog.toList, Contents.list, List.map_filterMap]
  refine List.filterMap_congr fun id _ => ?_
  rw [drafts_contents, Option.map_map]
  cases found : s.catalog.get? id with
  | none => rfl
  | some record => simp [Catalog.id_of_get? found]

end Shelf

/-! ### Entries -/

/-- What a command puts into a shelf. -/
inductive Entry where
  | nothing
  /-- A rule under the next id. -/
  | fresh (draft : RuleDraft)
  /-- Another rule for an id that has one. -/
  | other (id : String) (draft : RuleDraft)

/-- Puts an entry into some contents, with `ids` as the ids to give out. -/
def Entry.enter (ids : Nat → String) : Entry → Contents → Contents
  | nothing, v => v
  | fresh draft, v => { v.put (ids v.issued) draft with issued := v.issued + 1 }
  | other id draft, v => v.put id draft

namespace Shelf

/-- What a command puts into a shelf. -/
def entry (s : Shelf) : Command → Entry
  | .create rule =>
    match ParsedRule.ofText? rule with
    | .ok parsed => .fresh (.ofParsed rule parsed)
    | .error _ => .nothing
  | .update id rule =>
    match ParsedRule.ofText? rule, s.catalog.get? id with
    | .ok parsed, some _ => .other id (.ofParsed rule parsed)
    | _, _ => .nothing
  | .combine sources =>
    match sources.mapM s.catalog.require with
    | .ok records => (RuleRecord.combine? records).elim .nothing .fresh
    | .error _ => .nothing
  | .evaluate _ _ => .nothing

theorem contents_keep (s : Shelf) (ids : Nat → String) (now : Instant) (draft : RuleDraft) :
    (s.keep ids now draft).contents = (Entry.fresh draft).enter ids s.contents := by
  have saved := congrArg (fun v : Contents => { v with issued := s.issued + 1 })
    (s.contents_save (draft.record (ids s.issued) now))
  exact saved

/-- **A command puts in its entry, and nothing else.** -/
theorem contents_perform (s : Shelf) (ids : Nat → String) (now : Instant) (command : Command) :
    (s.perform ids now command).shelf.contents = (s.entry command).enter ids s.contents := by
  cases command with
  | create rule =>
    simp only [perform, create, entry]
    cases ParsedRule.ofText? rule with
    | error cause => rfl
    | ok parsed => exact s.contents_keep ids now _
  | update id rule =>
    simp only [perform, update, entry]
    cases ParsedRule.ofText? rule with
    | error cause => rfl
    | ok parsed =>
      cases found : s.catalog.get? id with
      | none =>
        simp only [Catalog.revise, Catalog.require_of_get?_eq_none found, bind, Except.bind]
        rfl
      | some record =>
        obtain rfl := Catalog.id_of_get? found
        have revised : s.catalog.revise record.id (.ofParsed rule parsed) now = .ok _ :=
          Catalog.revise_eq_ok_iff.mpr ⟨record, found, rfl⟩
        simp only [revised]
        exact s.contents_save _
  | combine sources =>
    simp only [perform, combine, entry]
    cases sources.mapM s.catalog.require with
    | error e => rfl
    | ok records =>
      cases joined : RuleRecord.combine? records with
      | none => simp only [joined]; rfl
      | some draft =>
        simp only [joined]
        exact s.contents_keep ids now draft
  | evaluate id data =>
    simp only [perform, evaluate, entry]
    split
    · rfl
    · split <;> rfl

end Shelf

/-! ### What a command sees -/

/-- The part of some contents that is looked at or written to. -/
structure Scope where
  /-- The ids that are named. -/
  names : List String := []
  /-- Whether a rule may be kept under a new id. -/
  issues : Bool := false
  deriving DecidableEq, Repr

/-- The scope of a command. -/
def Command.scope : Command → Scope
  | create _ => { issues := true }
  | update id _ => { names := [id] }
  | combine sources => { names := sources, issues := true }
  | evaluate id _ => { names := [id] }

/-- Two contents are the same within a scope: the same rules under the ids that are named, and the
same next id if a rule may be kept under it. -/
structure Scope.SeesSame (scope : Scope) (v w : Contents) : Prop where
  drafts : ∀ id ∈ scope.names, v.drafts id = w.drafts id
  issued : scope.issues = true → v.issued = w.issued

/-- An entry stays within a scope: it is for the next id, or for one that is named and has a rule. -/
inductive Entry.Within (v : Contents) (scope : Scope) : Entry → Prop where
  | nothing : Within v scope .nothing
  | fresh (draft : RuleDraft) : scope.issues = true → Within v scope (.fresh draft)
  | other {id : String} (draft : RuleDraft) : id ∈ scope.names → (v.drafts id).isSome = true →
      Within v scope (.other id draft)

/-- **What a command puts in stays within its scope.** -/
theorem Shelf.entry_within (s : Shelf) (command : Command) :
    Entry.Within s.contents command.scope (s.entry command) := by
  cases command with
  | create rule =>
    simp only [entry]
    cases ParsedRule.ofText? rule with
    | error cause => exact .nothing
    | ok parsed => exact .fresh _ rfl
  | update id rule =>
    simp only [entry]
    cases ParsedRule.ofText? rule with
    | error cause => exact .nothing
    | ok parsed =>
      cases found : s.catalog.get? id with
      | none => exact .nothing
      | some record =>
        have known : (s.contents.drafts id).isSome = true := by rw [drafts_contents, found]; rfl
        exact .other _ List.mem_cons_self known
  | combine sources =>
    simp only [entry]
    cases sources.mapM s.catalog.require with
    | error e => exact .nothing
    | ok records =>
      cases joined : RuleRecord.combine? records with
      | none =>
        simp only [joined]
        exact .nothing
      | some draft =>
        simp only [joined]
        exact .fresh draft rfl
  | evaluate id data => exact .nothing

/-- A combination is made of the drafts of its records. -/
theorem RuleRecord.combine?_congr {records records' : List RuleRecord}
    (same : records.map draft = records'.map draft) : combine? records = combine? records' := by
  have trees : records.map (·.tree) = records'.map (·.tree) := by
    have mapped := congrArg (List.map RuleDraft.tree) same
    rwa [List.map_map, List.map_map] at mapped
  have texts : records.map (·.text) = records'.map (·.text) := by
    have mapped := congrArg (List.map RuleDraft.text) same
    rwa [List.map_map, List.map_map] at mapped
  rw [combine?, combine?, trees, texts]

/-- What executing a rule comes to is told by its id and its draft. -/
theorem execute_congr {traced : Bool} {record record' : RuleRecord} {data : Json}
    (id : record.id = record'.id) (draft : record.draft = record'.draft) :
    execute traced record data = execute traced record' data := by
  have tree : record.tree = record'.tree := congrArg RuleDraft.tree draft
  have fields : record.fields = record'.fields := congrArg RuleDraft.fields draft
  rw [execute, execute, id, tree, fields]

namespace Shelf

variable {s t : Shelf}

/-- Where the drafts of an id are the same, both shelves have a record for it or neither does. -/
theorem get?_of_drafts_eq {id : String} (same : s.contents.drafts id = t.contents.drafts id) :
    (s.catalog.get? id = none ∧ t.catalog.get? id = none) ∨
    ∃ record record', s.catalog.get? id = some record ∧ t.catalog.get? id = some record' ∧
      record.id = record'.id ∧ record.draft = record'.draft := by
  rw [drafts_contents, drafts_contents] at same
  cases here : s.catalog.get? id with
  | none =>
    rw [here] at same
    exact .inl ⟨rfl, Option.map_eq_none_iff.mp same.symm⟩
  | some record =>
    rw [here] at same
    obtain ⟨record', there, draft⟩ := Option.map_eq_some_iff.mp same.symm
    exact .inr ⟨record, record', rfl, there,
      (Catalog.id_of_get? here).trans (Catalog.id_of_get? there).symm, draft.symm⟩

/-- The records of several ids are refused for the same id, or have the same drafts. -/
theorem mapM_require_of_drafts_eq {sources : List String}
    (same : ∀ id ∈ sources, s.contents.drafts id = t.contents.drafts id) :
    (∃ e, sources.mapM s.catalog.require = .error e ∧ sources.mapM t.catalog.require = .error e) ∨
    ∃ records records', sources.mapM s.catalog.require = .ok records ∧
      sources.mapM t.catalog.require = .ok records' ∧
      records.map RuleRecord.draft = records'.map RuleRecord.draft := by
  induction sources with
  | nil => exact .inr ⟨[], [], rfl, rfl, rfl⟩
  | cons id rest ih =>
    simp only [List.mapM_cons]
    rcases get?_of_drafts_eq (same id List.mem_cons_self) with
      ⟨here, there⟩ | ⟨record, record', here, there, -, draft⟩
    · left
      rw [Catalog.require_of_get?_eq_none here, Catalog.require_of_get?_eq_none there]
      exact ⟨_, rfl, rfl⟩
    · rw [Catalog.require_eq_ok_iff.mpr here, Catalog.require_eq_ok_iff.mpr there]
      rcases ih fun other mem => same other (List.mem_cons_of_mem _ mem) with
        ⟨e, first, second⟩ | ⟨records, records', first, second, drafts⟩
      · left
        rw [first, second]
        exact ⟨e, rfl, rfl⟩
      · right
        rw [first, second]
        exact ⟨record :: records, record' :: records', rfl, rfl, by simp [draft, drafts]⟩

/-- **A command is answered, and puts in, the same where it sees the same.** -/
theorem perform_congr {command : Command} (same : command.scope.SeesSame s.contents t.contents)
    (ids : Nat → String) (now now' : Instant) :
    (s.perform ids now command).answer = (t.perform ids now' command).answer ∧
      s.entry command = t.entry command := by
  cases command with
  | create rule =>
    have issued : s.issued = t.issued := same.issued rfl
    simp only [perform, create, entry, and_true]
    cases ParsedRule.ofText? rule with
    | error cause => rfl
    | ok parsed => simp only [issued]
  | update id rule =>
    simp only [perform, update, entry]
    cases ParsedRule.ofText? rule with
    | error cause => exact ⟨rfl, rfl⟩
    | ok parsed =>
      rcases get?_of_drafts_eq (same.drafts id List.mem_cons_self) with
        ⟨here, there⟩ | ⟨record, record', here, there, -, -⟩
      · simp only [Catalog.revise, Catalog.require_of_get?_eq_none here,
          Catalog.require_of_get?_eq_none there, here, there, bind, Except.bind, and_true]
        rfl
      · simp only [Catalog.revise, Catalog.require_eq_ok_iff.mpr here,
          Catalog.require_eq_ok_iff.mpr there, here, there, bind, Except.bind, and_self]
  | combine sources =>
    have issued : s.issued = t.issued := same.issued rfl
    have named : ∀ id ∈ sources, s.contents.drafts id = t.contents.drafts id := same.drafts
    simp only [perform, combine, entry]
    rcases mapM_require_of_drafts_eq named with
      ⟨e, here, there⟩ | ⟨records, records', here, there, drafts⟩
    · simp only [here, there, and_true]
      rfl
    · simp only [here, there, RuleRecord.combine?_congr drafts, and_true]
      cases RuleRecord.combine? records' with
      | none => rfl
      | some draft => simp only [issued]
  | evaluate id data =>
    simp only [perform, evaluate, entry, and_true]
    rcases get?_of_drafts_eq (same.drafts id List.mem_cons_self) with
      ⟨here, there⟩ | ⟨record, record', here, there, sameId, draft⟩
    · simp only [Catalog.require_of_get?_eq_none here, Catalog.require_of_get?_eq_none there]
      rfl
    · simp only [Catalog.require_eq_ok_iff.mpr here, Catalog.require_eq_ok_iff.mpr there,
        execute_congr sameId draft]
      cases execute _ record' data <;> rfl

end Shelf
end Rulebook
