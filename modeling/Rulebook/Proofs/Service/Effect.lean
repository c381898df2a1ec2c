import Rulebook.Proofs.Service.Evaluation

/-!
What a request changes, by what it is answered.

* `Answer.endpoint?`, `Shelf.route_of_endpoint?`: an answer of success comes from the endpoint that
  the request goes to.
* `Service.shelf_of_not_written`, `Service.exists_save_of_issued`, `Service.exists_save_of_updated`:
  nothing is written, a new record is saved, or another version of one that there is.
* `Service.changes_only_what_is_named`: in every state that a fresh service can come to, a request
  changes nothing, or only what its answer names.
-/

namespace Rulebook

/-! ### Where answers come from -/

/-- The task that a command belongs to. -/
def Command.task : Command → Task
  | create _ => .create
  | update _ _ => .update
  | combine _ => .combine
  | evaluate _ _ => .evaluate

/-- The command that a body is belongs to the task that reads it. -/
theorem Task.task_of_read {task : Task} {body : String} {command : Command}
    (read : task.read body = .ok command) : command.task = task := by
  have ofFields {values : List (String × Json)} (filled : task.command values = .ok command) :
      command.task = task := by
    cases task <;> simp only [Task.command] at filled <;> split at filled
    all_goals cases filled
    all_goals rfl
  unfold Task.read at read
  split at read
  · cases read
  · cases read
  · next values _ =>
    cases filled : task.command values with
    | error lines =>
      rw [filled] at read
      cases read
    | ok other =>
      rw [filled] at read
      cases read
      exact ofFields filled

namespace Endpoint

/-- The endpoints that only look at the rules. -/
def reading : List Endpoint := [.greeting, .health, .rules, .task .evaluate]

theorem exists_reading_of_path {path : String}
    (h : path ∈ ["/", "/health", "/rules", "/evaluate_rule"]) :
    ∃ endpoint ∈ reading, ofPath? path = some endpoint := by
  simp only [List.mem_cons, List.not_mem_nil, or_false] at h
  rcases h with rfl | rfl | rfl | rfl
  · exact ⟨.greeting, by decide, rfl⟩
  · exact ⟨.health, by decide, rfl⟩
  · exact ⟨.rules, by decide, rfl⟩
  · exact ⟨.task .evaluate, by decide, rfl⟩

end Endpoint

namespace Answer

/-- The endpoint that an answer of success comes from. -/
def endpoint? : Answer → Option Endpoint
  | greeting => some .greeting
  | healthy => some .health
  | rules _ => some .rules
  | created _ _ => some (.task .create)
  | updated _ => some (.task .update)
  | combined _ _ => some (.task .combine)
  | evaluated _ => some (.task .evaluate)
  | failed _ => none
  | rejected _ => none

/-- Exactly the answers that come from an endpoint have the status of success. -/
theorem status_eq_ok_iff {a : Answer} : a.status = 200 ↔ ∃ endpoint, a.endpoint? = some endpoint := by
  cases a with
  | failed error => cases error <;> simp [status, endpoint?, ServiceError.status]
  | rejected reason => cases reason <;> simp [status, endpoint?, Rejection.status]
  | _ => simp [status, endpoint?]

/-- Without the status of success nothing has been written. -/
theorem written?_of_status_ne_ok {a : Answer} (fails : a.status ≠ 200) : a.written? = none := by
  cases a with
  | failed _ => rfl
  | rejected _ => rfl
  | _ => exact absurd rfl fails

/-- Outside of creations, updates and combinations nothing is written. -/
theorem written?_of_reading {a : Answer} {endpoint : Endpoint} (origin : a.endpoint? = some endpoint)
    (reads : endpoint ∈ Endpoint.reading) : a.written? = none := by
  have only (task : Task) (h : .task task ∈ Endpoint.reading) : task = .evaluate := by
    simpa [Endpoint.reading] using h
  cases a with
  | created _ _ =>
    cases origin
    cases only _ reads
  | updated _ =>
    cases origin
    cases only _ reads
  | combined _ _ =>
    cases origin
    cases only _ reads
  | _ => rfl

theorem exists_issued?_of_endpoint? {a : Answer}
    (issues : a.endpoint? = some (.task .create) ∨ a.endpoint? = some (.task .combine)) :
    ∃ id, a.issued? = some id := by
  cases a with
  | created id _ => exact ⟨id, rfl⟩
  | combined id _ => exact ⟨id, rfl⟩
  | _ => simp [endpoint?] at issues

theorem exists_eq_updated_of_endpoint? {a : Answer} (updates : a.endpoint? = some (.task .update)) :
    ∃ id, a = .updated id := by
  cases a with
  | updated id => exact ⟨id, rfl⟩
  | _ => simp [endpoint?] at updates

/-- An id that an answer gives out has been written. -/
theorem written?_of_issued? {a : Answer} {id : String} (issued : a.issued? = some id) :
    a.written? = some id := by
  cases a with
  | created _ _ => exact issued
  | combined _ _ => exact issued
  | _ => cases issued

/-- An id that has been written without being given out has been updated. -/
theorem eq_updated_of_written? {a : Answer} {id : String} (written : a.written? = some id)
    (old : a.issued? = none) : a = .updated id := by
  cases a with
  | created _ _ => cases old
  | combined _ _ => cases old
  | updated _ =>
    cases written
    rfl
  | _ => cases written

end Answer

namespace Shelf

variable {ids : Nat → String} {s : Shelf} {now : Instant} {endpoint : Endpoint}

/-- What a command is answered with success comes from its task. -/
theorem endpoint?_perform {command : Command}
    (succeeds : (s.perform ids now command).answer.endpoint? = some endpoint) :
    endpoint = .task command.task := by
  cases command with
  | create rule =>
    simp only [perform, create] at succeeds
    split at succeeds <;> cases succeeds
    rfl
  | update id rule =>
    simp only [perform, update] at succeeds
    split at succeeds
    · cases succeeds
    · split at succeeds <;> cases succeeds
      rfl
  | combine sources =>
    simp only [perform, combine] at succeeds
    split at succeeds
    · cases succeeds
    · split at succeeds <;> cases succeeds
      rfl
  | evaluate id data =>
    simp only [perform, evaluate] at succeeds
    split at succeeds
    · cases succeeds
    · split at succeeds <;> cases succeeds
      rfl

/-- **An answer of success comes from the endpoint that the request goes to.** -/
theorem route_of_endpoint? {arrival : Arrival}
    (succeeds : (s.handle ids arrival).answer.endpoint? = some endpoint) :
    route arrival.request = .ok endpoint := by
  unfold handle at succeeds
  split at succeeds
  · cases succeeds
  · next other routed =>
    rw [routed]
    cases other with
    | task task =>
      simp only [visit, doTask] at succeeds
      split at succeeds
      · cases succeeds
      · split at succeeds
        · cases succeeds
        · split at succeeds
          · cases succeeds
          · cases succeeds
          · cases succeeds
          · next command read =>
            rw [endpoint?_perform succeeds, Task.task_of_read read]
    | _ =>
      cases succeeds
      rfl

end Shelf

namespace Service

/-- A state that a fresh service can come to. -/
def Reachable (ids : Nat → String) (s : Service) : Prop :=
  ∃ arrivals, (run ids {} arrivals).1 = s

variable {ids : Nat → String} {s next : Service} {arrival : Arrival} {exchange : Exchange}

/-- An id that is still to be given out has no rule. -/
theorem Reachable.fresh (reachable : Reachable ids s) (distinct : Function.Injective ids) :
    s.catalog.get? (ids s.shelf.issued) = none := by
  obtain ⟨arrivals, rfl⟩ := reachable
  have agrees := agrees_history ids arrivals
  exact Option.map_eq_none_iff.mp ((agrees.trees _).trans (agrees.fresh distinct))

/-! ### What becomes of the catalog -/

/-- A request whose answer names no rule that has been written leaves the shelf as it is. -/
theorem shelf_of_not_written (answered : s.respond ids arrival = (next, exchange))
    (silent : exchange.reply.answer.written? = none) : next.shelf = s.shelf := by
  cases answered
  change (s.shelf.handle ids arrival).answer.written? = none at silent
  change (s.shelf.handle ids arrival).shelf = s.shelf
  cases Shelf.moves_handle ids s.shelf arrival with
  | stays shelf _ => exact shelf
  | creates _ _ _ answer => rw [answer] at silent; cases silent
  | updates _ _ _ _ answer => rw [answer] at silent; cases silent
  | combines _ _ _ _ answer => rw [answer] at silent; cases silent

/-- An id that an answer gives out has a new record, which the answer describes. -/
theorem exists_save_of_issued (answered : s.respond ids arrival = (next, exchange)) {id : String}
    (issued : exchange.reply.answer.issued? = some id) :
    ∃ record : RuleRecord, record.id = ids s.shelf.issued ∧
      (exchange.reply.answer = .created record.id record.tree ∨
        exchange.reply.answer = .combined record.id record.tree) ∧
      next.catalog = s.catalog.save record := by
  cases answered
  change (s.shelf.handle ids arrival).answer.issued? = some id at issued
  have keeps {draft : RuleDraft}
      (shelf : (s.shelf.handle ids arrival).shelf = s.shelf.keep ids arrival.now draft) :
      (s.respond ids arrival).1.catalog =
        s.catalog.save (draft.record (ids s.shelf.issued) arrival.now) :=
    congrArg Shelf.catalog shelf
  cases Shelf.moves_handle ids s.shelf arrival with
  | stays _ silent =>
    rw [Answer.written?_of_issued? issued] at silent
    cases silent
  | creates _ _ shelf answer => exact ⟨_, rfl, .inl answer, keeps shelf⟩
  | updates _ _ _ _ answer =>
    rw [answer] at issued
    cases issued
  | combines _ _ _ shelf answer => exact ⟨_, rfl, .inr answer, keeps shelf⟩

/-- An id that an answer says has been updated has the rule of the text that the request brings,
and keeps the rest of its record. -/
theorem exists_save_of_updated (answered : s.respond ids arrival = (next, exchange)) {id : String}
    (updated : exchange.reply.answer = .updated id) :
    ∃ record text parsed, arrival.request.command? = some (.update id text) ∧
      ParsedRule.ofText? text = .ok parsed ∧ s.catalog.get? id = some record ∧
      next.catalog = s.catalog.save (Catalog.revised record (.ofParsed text parsed) arrival.now) := by
  cases answered
  change (s.shelf.handle ids arrival).answer = .updated id at updated
  cases Shelf.moves_handle ids s.shelf arrival with
  | stays _ silent =>
    rw [updated] at silent
    cases silent
  | creates _ _ _ answer =>
    rw [answer] at updated
    cases updated
  | updates brings read found shelf answer =>
    rw [answer] at updated
    cases updated
    exact ⟨_, _, _, brings, read, found, congrArg Shelf.catalog shelf⟩
  | combines _ _ _ _ answer =>
    rw [answer] at updated
    cases updated

/-- An answer of success is that of the endpoint at the path of the request. -/
theorem endpoint?_of_path (answered : s.respond ids arrival = (next, exchange)) {endpoint : Endpoint}
    (succeeds : exchange.reply.status = 200)
    (there : Endpoint.ofPath? arrival.request.path = some endpoint) :
    exchange.reply.answer.endpoint? = some endpoint := by
  cases answered
  obtain ⟨other, origin⟩ := Answer.status_eq_ok_iff.mp succeeds
  have routed := Shelf.route_of_endpoint? origin
  rw [route, there] at routed
  dsimp only at routed
  split at routed
  · cases routed
    exact origin
  · cases routed

/-- **A request changes nothing, or only what its answer names.** In every state that a fresh
service can come to:

* a request without success leaves the catalog as it is;
* so do the greeting, the state of health, the list of rules and evaluations;
* a creation or combination puts one record at the end of the list, under the id that it returns
  and with the tree that it returns, and that id had no record;
* an update replaces text, tree, fields and time of update of the record it names, in its place. -/
theorem changes_only_what_is_named (distinct : Function.Injective ids)
    (reachable : Reachable ids s) (answered : s.respond ids arrival = (next, exchange)) :
    (exchange.reply.status ≠ 200 → next.catalog = s.catalog) ∧
    (exchange.reply.status = 200 →
      arrival.request.path ∈ ["/", "/health", "/rules", "/evaluate_rule"] →
        next.catalog = s.catalog) ∧
    (exchange.reply.status = 200 → arrival.request.path ∈ ["/create_rule", "/combine_rules"] →
      ∃ record : RuleRecord, (exchange.reply.answer = .created record.id record.tree ∨
          exchange.reply.answer = .combined record.id record.tree) ∧
        s.catalog.get? record.id = none ∧ next.catalog.toList = s.catalog.toList ++ [record] ∧
        ∀ id ≠ record.id, next.catalog.get? id = s.catalog.get? id) ∧
    (exchange.reply.status = 200 → arrival.request.path = "/update_rule" →
      ∃ front record back text parsed,
        arrival.request.command? = some (.update record.id text) ∧
        exchange.reply.answer = .updated record.id ∧ ParsedRule.ofText? text = .ok parsed ∧
        s.catalog.toList = front ++ record :: back ∧
        next.catalog.toList = front ++ { record with
          text, tree := parsed.tree, fields := parsed.fields, updatedAt := arrival.now } :: back ∧
        ∀ id ≠ record.id, next.catalog.get? id = s.catalog.get? id) := by
  have frame {record : RuleRecord} (saved : next.catalog = s.catalog.save record) :
      ∀ id ≠ record.id, next.catalog.get? id = s.catalog.get? id := fun id other => by
    rw [saved, Catalog.get?_save, if_neg other]
  refine ⟨fun fails => ?_, fun succeeds path => ?_, fun succeeds path => ?_,
    fun succeeds path => ?_⟩
  · exact congrArg Shelf.catalog
      (shelf_of_not_written answered (Answer.written?_of_status_ne_ok fails))
  · refine congrArg Shelf.catalog (shelf_of_not_written answered ?_)
    obtain ⟨endpoint, reads, there⟩ := Endpoint.exists_reading_of_path path
    exact Answer.written?_of_reading (endpoint?_of_path answered succeeds there) reads
  · have issues : exchange.reply.answer.endpoint? = some (.task .create) ∨
        exchange.reply.answer.endpoint? = some (.task .combine) := by
      simp only [List.mem_cons, List.not_mem_nil, or_false] at path
      rcases path with path | path
      · exact .inl (endpoint?_of_path answered succeeds (by rw [path]; rfl))
      · exact .inr (endpoint?_of_path answered succeeds (by rw [path]; rfl))
    obtain ⟨id, issued⟩ := Answer.exists_issued?_of_endpoint? issues
    obtain ⟨record, isNext, answer, saved⟩ := exists_save_of_issued answered issued
    have new : s.catalog.get? record.id = none := by rw [isNext, reachable.fresh distinct]
    exact ⟨record, answer, new, by rw [saved, Catalog.toList_save_of_new new], frame saved⟩
  · obtain ⟨id, updated⟩ := Answer.exists_eq_updated_of_endpoint?
      (endpoint?_of_path answered succeeds (by rw [path]; rfl))
    obtain ⟨record, text, parsed, brings, read, found, saved⟩ :=
      exists_save_of_updated answered updated
    obtain rfl := Catalog.id_of_get? found
    have known : s.catalog.get? (Catalog.revised record (.ofParsed text parsed) arrival.now).id =
        some record := found
    obtain ⟨front, back, before, after⟩ := Catalog.exists_toList_save known
    have others := frame saved
    exact ⟨front, record, back, text, parsed, brings, updated, read, before, saved ▸ after, others⟩

/-- The service with two rules and their combination. -/
def withCombination : Service := (run strokeId {} (combinedThenUpdated.take 3)).1

/-- The first of the rules is updated. -/
def updateFirst : Arrival := .post "/update_rule" "[\"r\",\"role = guest\"]"

/-- The first rule is replaced in its place, and the combination stays as it is. -/
theorem updateFirst_in_place : Function.Injective strokeId ∧ Reachable strokeId withCombination ∧
    (withCombination.respond strokeId updateFirst).2.reply.status = 200 ∧
    ∃ front record back text parsed, record.id = "r" ∧ ParsedRule.ofText? text = .ok parsed ∧
      withCombination.catalog.toList = front ++ record :: back ∧
      (withCombination.respond strokeId updateFirst).1.catalog.toList = front ++ { record with
        text, tree := parsed.tree, fields := parsed.fields, updatedAt := updateFirst.now } ::
          back ∧
      ∀ id ≠ "r", (withCombination.respond strokeId updateFirst).1.catalog.get? id =
        withCombination.catalog.get? id := by
  have reachable : Reachable strokeId withCombination := ⟨_, rfl⟩
  have succeeds : (withCombination.respond strokeId updateFirst).2.reply.status = 200 := by
    decide +kernel
  have written : (withCombination.respond strokeId updateFirst).2.reply.answer.written? =
      some "r" := by
    decide +kernel
  obtain ⟨-, -, -, updates⟩ := changes_only_what_is_named strokeId_injective reachable
    (Prod.eta (withCombination.respond strokeId updateFirst)).symm
  obtain ⟨front, record, back, text, parsed, -, updated, read, before, after, others⟩ :=
    updates succeeds (by decide +kernel)
  rw [updated] at written
  have first : record.id = "r" := Option.some.inj written
  exact ⟨strokeId_injective, reachable, succeeds, front, record, back, text, parsed, first, read,
    before, after, first ▸ others⟩

end Service
end Rulebook
