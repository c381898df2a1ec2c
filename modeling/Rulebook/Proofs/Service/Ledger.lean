import Mathlib.Logic.Function.Basic
import Rulebook.Proofs.Combination
import Rulebook.Proofs.Grammar
import Rulebook.Proofs.Service.Handling

/-!
The rules that a client can know of.

A ledger is kept from requests and replies alone: every write that has been answered replaces what
is known of one id, by the tree that its command writes.

* `Service.history`: the requests to a service with their replies.
* `Ledger.of`: the ledger after some turns.
* `Shelf.Agrees`, `Shelf.Agrees.enter`: the shelf holds what the ledger knows, and each request
  keeps it so.
* `Service.agrees_run`: through every run the shelf stays in step with the ledger.
-/

namespace Rulebook

/-! ### Turns -/

/-- A request with its reply. -/
structure Turn where
  request : Request
  reply : Reply

namespace Service

/-- The turn that an arrival makes. -/
def turn (ids : Nat → String) (s : Service) (arrival : Arrival) : Turn :=
  ⟨arrival.request, (s.respond ids arrival).2.reply⟩

/-- The turns of a run. -/
def history (ids : Nat → String) (s : Service) (arrivals : List Arrival) : List Turn :=
  List.zipWith (fun arrival exchange => ⟨arrival.request, exchange.reply⟩) arrivals
    (s.run ids arrivals).2

variable (ids : Nat → String) (s : Service)

@[simp] theorem history_cons (arrival : Arrival) (rest : List Arrival) :
    s.history ids (arrival :: rest) =
      s.turn ids arrival :: (s.respond ids arrival).1.history ids rest :=
  rfl

@[simp] theorem run_cons_fst (arrival : Arrival) (rest : List Arrival) :
    (s.run ids (arrival :: rest)).1 = ((s.respond ids arrival).1.run ids rest).1 :=
  rfl

theorem run_append_fst (xs ys : List Arrival) :
    (s.run ids (xs ++ ys)).1 = ((s.run ids xs).1.run ids ys).1 := by
  induction xs generalizing s with
  | nil => rfl
  | cons arrival rest ih => simp [ih]

theorem history_append (xs ys : List Arrival) :
    s.history ids (xs ++ ys) = s.history ids xs ++ (s.run ids xs).1.history ids ys := by
  induction xs generalizing s with
  | nil => rfl
  | cons arrival rest ih => simp [ih]

variable {ids s}

end Service

/-! ### Ledgers -/

/-- The trees of the rules, by id. -/
abbrev Ledger := String → Option RuleTree

/-- The tree that a command writes: that of the text it gives, or an AND of the trees that the
ledger has for the ids it lists, which leans to the left. -/
def Command.tree? (known : Ledger) : Command → Option RuleTree
  | create rule => (ParsedRule.ofText? rule).toOption.map (·.tree)
  | update _ rule => (ParsedRule.ofText? rule).toOption.map (·.tree)
  | combine sources =>
    match sources.mapM known with
    | some (first :: rest) => some (rest.foldl (.node .and) first)
    | _ => none
  | evaluate _ _ => none

/-- The tree that the request of a turn writes. -/
def Turn.tree? (known : Ledger) (turn : Turn) : Option RuleTree :=
  turn.request.command?.bind (·.tree? known)

namespace Ledger

/-- Enters a turn: a write that has been answered replaces what is known of its id. -/
def enter (known : Ledger) (turn : Turn) : Ledger :=
  match turn.reply.answer.written? with
  | some id => Function.update known id (turn.tree? known)
  | none => known

/-- The ledger after some turns, with nothing known before them. -/
def of (turns : List Turn) : Ledger := turns.foldl enter fun _ => none

theorem enter_of_written {known : Ledger} {turn : Turn} {id : String}
    (written : turn.reply.answer.written? = some id) :
    known.enter turn = Function.update known id (turn.tree? known) := by
  simp [enter, written]

theorem enter_of_silent {known : Ledger} {turn : Turn}
    (silent : turn.reply.answer.written? = none) : known.enter turn = known := by
  simp [enter, silent]

end Ledger

/-! ### The shelf agrees with the ledger -/

namespace Shelf

/-- The shelf holds the rules that the ledger knows, each with the fields of its tree and under an
id that has been given out. -/
structure Agrees (ids : Nat → String) (s : Shelf) (known : Ledger) : Prop where
  trees : ∀ id, (s.catalog.get? id).map (·.tree) = known id
  fields : ∀ id record, s.catalog.get? id = some record → record.fields = record.tree.fields
  issued : ∀ id record, s.catalog.get? id = some record → ∃ n < s.issued, id = ids n

/-- What a request writes, by its answer and by its command. -/
structure Writes (ids : Nat → String) (s : Shelf) (known : Ledger) (arrival : Arrival) (deed : Deed)
    (record : RuleRecord) : Prop where
  catalog : deed.shelf.catalog = s.catalog.save record
  fields : record.fields = record.tree.fields
  tree : arrival.request.command?.bind (·.tree? known) = some record.tree
  /-- The id is the next one and has been given out, or it had a rule and that has been updated. -/
  answer : record.id = ids s.issued ∧ deed.shelf.issued = s.issued + 1 ∧
      (deed.answer = .created record.id record.tree ∨
        deed.answer = .combined record.id record.tree) ∨
    (s.catalog.get? record.id).isSome = true ∧ deed.shelf.issued = s.issued ∧
      deed.answer = .updated record.id

variable {ids : Nat → String} {s : Shelf} {known : Ledger} {arrival : Arrival} {deed : Deed}

theorem agrees_empty (ids : Nat → String) : Agrees ids {} fun _ => none where
  trees := by simp
  fields := by simp
  issued := by simp

/-- The records of several ids have the trees that the ledger knows. -/
theorem Agrees.mapM_trees (agrees : s.Agrees ids known) {sources : List String}
    {records : List RuleRecord}
    (found : List.Forall₂ (fun id record => s.catalog.get? id = some record) sources records) :
    sources.mapM known = some (records.map (·.tree)) := by
  induction found with
  | nil => rfl
  | @cons id record _ _ first _ ih =>
    have tree : known id = some record.tree := by rw [← agrees.trees, first]; rfl
    simp [tree, ih]

/-- An id that is still to be given out is not known. -/
theorem Agrees.fresh (agrees : s.Agrees ids known) (distinct : Function.Injective ids) :
    known (ids s.issued) = none := by
  rw [← agrees.trees]
  cases found : s.catalog.get? (ids s.issued) with
  | none => rfl
  | some record =>
    obtain ⟨n, earlier, same⟩ := agrees.issued _ _ found
    exact absurd (distinct same) (Nat.ne_of_gt earlier)

/-- **A request leaves the shelf as it is, or writes the tree that its command says.** -/
theorem Agrees.writes (agrees : s.Agrees ids known) (moves : Moves ids s arrival deed) :
    deed.shelf = s ∧ deed.answer.written? = none ∨
      ∃ record, Writes ids s known arrival deed record := by
  cases moves with
  | stays shelf silent => exact .inl ⟨shelf, silent⟩
  | @creates rule parsed brings read shelf answer =>
    refine .inr ⟨(RuleDraft.ofParsed rule parsed).record (ids s.issued) arrival.now, ?_, ?_, ?_, ?_⟩
    · rw [shelf, keep]
    · exact (ParsedRule.ofText?_eq_ok_iff.mp read).2
    · rw [brings, Option.bind_some, Command.tree?, read]
      rfl
    · exact .inl ⟨rfl, by rw [shelf, keep], .inl answer⟩
  | @updates id rule parsed record brings read found shelf answer =>
    refine .inr ⟨Catalog.revised record (.ofParsed rule parsed) arrival.now, ?_, ?_, ?_, ?_⟩
    · rw [shelf]
    · exact (ParsedRule.ofText?_eq_ok_iff.mp read).2
    · rw [brings, Option.bind_some, Command.tree?, read]
      rfl
    · have same : record.id = id := Catalog.id_of_get? found
      exact .inr ⟨by simp [Catalog.revised, same, found], by rw [shelf],
        by simp [answer, Catalog.revised, same]⟩
  | @combines sources records draft brings found joined shelf answer =>
    obtain ⟨first, rest, rfl, tree, fields, -⟩ := RuleRecord.eq_of_combine? joined
    refine .inr ⟨draft.record (ids s.issued) arrival.now, ?_, fields, ?_, ?_⟩
    · rw [shelf, keep]
    · rw [brings, Option.bind_some, Command.tree?, agrees.mapM_trees found]
      exact congrArg some tree.symm
    · exact .inl ⟨rfl, by rw [shelf, keep], .inr answer⟩

theorem Writes.written? {record : RuleRecord} (writes : Writes ids s known arrival deed record) :
    deed.answer.written? = some record.id := by
  rcases writes.answer with ⟨-, -, answer | answer⟩ | ⟨-, -, answer⟩ <;> rw [answer] <;> rfl

/-- An id that a request writes has been given out by the time the request is answered. -/
theorem Agrees.exists_issued (agrees : s.Agrees ids known) {record : RuleRecord}
    (writes : Writes ids s known arrival deed record) :
    s.issued ≤ deed.shelf.issued ∧ ∃ n < deed.shelf.issued, record.id = ids n := by
  rcases writes.answer with ⟨next, count, -⟩ | ⟨known, count, -⟩
  · rw [count]
    exact ⟨Nat.le_succ _, s.issued, Nat.lt_succ_self _, next⟩
  · rw [count]
    obtain ⟨earlier, found⟩ := Option.isSome_iff_exists.mp known
    exact ⟨le_rfl, agrees.issued _ _ found⟩

/-- **Each request keeps the shelf in step with the ledger.** -/
theorem Agrees.enter (agrees : s.Agrees ids known) (moves : Moves ids s arrival deed) {turn : Turn}
    (request : turn.request = arrival.request) (answer : turn.reply.answer = deed.answer) :
    deed.shelf.Agrees ids (known.enter turn) := by
  rcases agrees.writes moves with ⟨shelf, silent⟩ | ⟨record, writes⟩
  · rw [Ledger.enter_of_silent (answer ▸ silent), shelf]
    exact agrees
  · rw [Ledger.enter_of_written (answer ▸ writes.written?), Turn.tree?, request, writes.tree]
    obtain ⟨more, issued⟩ := agrees.exists_issued writes
    refine ⟨fun id => ?_, fun id found => ?_, fun id found => ?_⟩
    · rw [writes.catalog, Catalog.get?_save, Function.update_apply, ← agrees.trees]
      split <;> rfl
    · rw [writes.catalog, Catalog.get?_save]
      split
      · rintro ⟨⟩
        exact writes.fields
      · exact agrees.fields id found
    · rw [writes.catalog, Catalog.get?_save]
      split
      · next same =>
        intro _
        rw [same]
        exact issued
      · intro kept
        obtain ⟨n, earlier, same⟩ := agrees.issued id found kept
        exact ⟨n, Nat.lt_of_lt_of_le earlier more, same⟩

end Shelf

namespace Service

open Rulebook.Shelf (Agrees moves_handle)

variable {ids : Nat → String} {s : Service} {known : Ledger}

theorem agrees_respond (agrees : s.shelf.Agrees ids known) (arrival : Arrival) :
    (s.respond ids arrival).1.shelf.Agrees ids (known.enter (s.turn ids arrival)) :=
  agrees.enter (moves_handle ids s.shelf arrival) rfl rfl

/-- **Through every run the shelf stays in step with the ledger.** -/
theorem agrees_run (agrees : s.shelf.Agrees ids known) (arrivals : List Arrival) :
    (s.run ids arrivals).1.shelf.Agrees ids
      ((s.history ids arrivals).foldl Ledger.enter known) := by
  induction arrivals generalizing s known with
  | nil => exact agrees
  | cons arrival rest ih => exact ih (agrees_respond agrees arrival)

theorem agrees_fresh (ids : Nat → String) :
    (shelf {}).Agrees ids fun _ => none :=
  Shelf.agrees_empty ids

/-- The shelf of a run of a fresh service holds what the ledger of its history knows. -/
theorem agrees_history (ids : Nat → String) (arrivals : List Arrival) :
    (run ids {} arrivals).1.shelf.Agrees ids (Ledger.of (history ids {} arrivals)) :=
  agrees_run (agrees_fresh ids) arrivals

end Service

end Rulebook
