import Rulebook.Proofs.Catalog
import Rulebook.Proofs.Service.Filling
import Rulebook.Service.Run

/-!
What a request can do to the shelf.

* `Request.command?`: the command that a request brings, if it gets that far.
* `Request.Asks`, `Request.command?_eq_some_iff`: it is the one that the fields in the body ask for.
* `Shelf.handle_of_command?`: a request that brings a command comes to what the command comes to.
* `Shelf.idle_of_command?_eq_none`: one that brings none changes nothing.
* `Shelf.Moves`, `Shelf.moves_handle`: a request leaves the shelf as it is, or its answer names the
  rule that has been written and the command says which.
-/

namespace Rulebook

/-- The command that a request brings: it goes to a task, says that it carries JSON, is not too
long, and has the command in its body. -/
def Request.command? (r : Request) : Option Command :=
  match route r with
  | .ok (.task task) =>
    if r.carriesJson && r.body.utf8ByteSize ≤ longestBody then (task.read r.body).toOption else none
  | _ => none

/-- A body that is read in time brings its command. -/
theorem Request.command?_of_read {r : Request} {task : Task} {command : Command}
    (routed : route r = .ok (.task task)) (json : r.carriesJson = true)
    (short : r.body.utf8ByteSize ≤ longestBody) (read : task.read r.body = .ok command) :
    r.command? = some command := by
  simp [command?, routed, json, short, read, Except.toOption]

/-- A request for a task with a body that gives its fields: it goes to that task with JSON that is
not too long. -/
structure Request.Decodes (r : Request) (task : Task) (values : List (String × Json)) : Prop where
  routed : route r = .ok (.task task)
  json : r.carriesJson = true
  short : r.body.utf8ByteSize ≤ longestBody
  body : Json.Shape.readFields task.fields r.body.toList = .ok values

/-- A request that gives the fields of a task, which ask for a command. -/
def Request.Asks (r : Request) (command : Command) : Prop :=
  ∃ task values, r.Decodes task values ∧ Task.Asks values task command

/-- **A request brings the command that it asks for.** -/
theorem Request.command?_eq_some_iff {r : Request} {command : Command} :
    r.command? = some command ↔ r.Asks command := by
  constructor
  · intro brings
    unfold command? at brings
    split at brings
    · next task routed =>
      split at brings
      · next taken =>
        rw [Bool.and_eq_true, decide_eq_true_eq] at taken
        have read : task.read r.body = .ok command := by
          cases read : task.read r.body with
          | error fault =>
            rw [read] at brings
            cases brings
          | ok other =>
            rw [read] at brings
            cases brings
            rfl
        obtain ⟨values, body, asks⟩ := Task.read_eq_ok_iff.mp read
        exact ⟨task, values, ⟨routed, taken.1, taken.2, body⟩, asks⟩
      · cases brings
    · cases brings
  · rintro ⟨task, values, decodes, asks⟩
    have read := Task.read_eq_ok_iff.mpr ⟨values, decodes.body, asks⟩
    exact command?_of_read decodes.routed decodes.json decodes.short read

/-- Tasks are posted. -/
theorem method_of_route {r : Request} {task : Task} (routed : route r = .ok (.task task)) :
    r.method = "POST" := by
  unfold route at routed
  split at routed
  · cases routed
  · split at routed
    · next allowed =>
      cases routed
      exact List.mem_singleton.mp allowed
    · cases routed

/-- The path of a task. -/
def Task.path : Task → String
  | create => "/create_rule"
  | update => "/update_rule"
  | combine => "/combine_rules"
  | evaluate => "/evaluate_rule"

theorem Endpoint.ofPath?_eq_task_iff {path : String} {task : Task} :
    ofPath? path = some (.task task) ↔ path = task.path := by
  constructor
  · intro there
    unfold ofPath? at there
    split at there <;> cases there <;> rfl
  · rintro rfl
    cases task <;> rfl

theorem path_of_route {r : Request} {task : Task} (routed : route r = .ok (.task task)) :
    r.path = task.path := by
  unfold route at routed
  split at routed
  · cases routed
  · next endpoint there =>
    split at routed
    · cases routed
      exact Endpoint.ofPath?_eq_task_iff.mp there
    · cases routed

namespace Answer

/-- The id that an answer gives out. -/
def issued? : Answer → Option String
  | created id _ => some id
  | combined id _ => some id
  | _ => none

/-- The id of the rule that has been written, by an answer. -/
def written? : Answer → Option String
  | created id _ => some id
  | combined id _ => some id
  | updated id => some id
  | _ => none

end Answer

namespace Shelf

/-- A request that brings a command comes to what the command comes to. -/
theorem handle_of_command? {ids : Nat → String} {s : Shelf} {arrival : Arrival} {command : Command}
    (brings : arrival.request.command? = some command) :
    s.handle ids arrival = s.perform ids arrival.now command := by
  obtain ⟨task, values, decodes, asks⟩ := Request.command?_eq_some_iff.mp brings
  have read := Task.read_eq_ok_iff.mpr ⟨values, decodes.body, asks⟩
  have short := Nat.not_lt.mpr decodes.short
  simp only [handle, decodes.routed, visit, doTask, decodes.json, short, read, Bool.not_true,
    Bool.false_eq_true, if_false]

/-- The answers to requests that bring no command. -/
inductive Idle : Answer → Prop where
  | greeting : Idle .greeting
  | healthy : Idle .healthy
  | rules (records : List RuleRecord) : Idle (.rules records)
  | rejected (reason : Rejection) : Idle (.rejected reason)
  | unfilled (lines : List String) : Idle (.failed (.validation lines))

theorem Idle.written? {answer : Answer} (idle : Idle answer) : answer.written? = none := by
  cases idle <;> rfl

/-- A request that brings no command changes nothing, and has one of the answers to such. -/
theorem idle_of_command?_eq_none (ids : Nat → String) (s : Shelf) {arrival : Arrival}
    (brings : arrival.request.command? = none) :
    (s.handle ids arrival).shelf = s ∧ Idle (s.handle ids arrival).answer := by
  unfold handle
  split
  · exact ⟨rfl, .rejected _⟩
  · next endpoint routed =>
    cases endpoint with
    | greeting => exact ⟨rfl, .greeting⟩
    | health => exact ⟨rfl, .healthy⟩
    | rules => exact ⟨rfl, .rules _⟩
    | task task =>
      simp only [visit, doTask]
      by_cases json : arrival.request.carriesJson = true
      · by_cases long : Request.longestBody < arrival.request.body.utf8ByteSize
        · simp only [json, Bool.not_true, Bool.false_eq_true, if_false, if_pos long]
          exact ⟨rfl, .rejected _⟩
        · simp only [json, Bool.not_true, Bool.false_eq_true, if_false, if_neg long]
          cases read : task.read arrival.request.body with
          | error fault =>
            cases fault with
            | malformed => exact ⟨rfl, .rejected _⟩
            | mismatched => exact ⟨rfl, .rejected _⟩
            | unfilled lines => exact ⟨rfl, .unfilled lines⟩
          | ok command =>
            rw [Request.command?_of_read routed json (Nat.not_lt.mp long) read] at brings
            cases brings
      · simp only [json, Bool.not_false, if_true]
        exact ⟨rfl, .rejected _⟩

/-- A request that brings no command changes nothing. -/
theorem handle_of_command?_eq_none (ids : Nat → String) (s : Shelf) {arrival : Arrival}
    (brings : arrival.request.command? = none) :
    (s.handle ids arrival).shelf = s ∧ (s.handle ids arrival).answer.written? = none := by
  obtain ⟨shelf, idle⟩ := idle_of_command?_eq_none ids s brings
  exact ⟨shelf, idle.written?⟩

/-- **What a request can do to the shelf.** -/
inductive Moves (ids : Nat → String) (s : Shelf) (arrival : Arrival) (deed : Deed) : Prop where
  /-- Nothing is written. -/
  | stays : deed.shelf = s → deed.answer.written? = none → Moves ids s arrival deed
  /-- A rule is kept under the next id. -/
  | creates {rule parsed} : arrival.request.command? = some (.create rule) →
      ParsedRule.ofText? rule = .ok parsed →
      deed.shelf = s.keep ids arrival.now (.ofParsed rule parsed) →
      deed.answer = .created (ids s.issued) parsed.tree → Moves ids s arrival deed
  /-- An id that has a rule gets another one. -/
  | updates {id rule parsed record} : arrival.request.command? = some (.update id rule) →
      ParsedRule.ofText? rule = .ok parsed → s.catalog.get? id = some record →
      deed.shelf = { s with
        catalog := s.catalog.save (Catalog.revised record (.ofParsed rule parsed) arrival.now) } →
      deed.answer = .updated id → Moves ids s arrival deed
  /-- The rule that joins some rules is kept under the next id. -/
  | combines {sources records draft} : arrival.request.command? = some (.combine sources) →
      List.Forall₂ (fun id record => s.catalog.get? id = some record) sources records →
      RuleRecord.combine? records = some draft →
      deed.shelf = s.keep ids arrival.now draft →
      deed.answer = .combined (ids s.issued) draft.tree → Moves ids s arrival deed

variable {ids : Nat → String} {s : Shelf} {arrival : Arrival}

theorem moves_create {rule : String} (brings : arrival.request.command? = some (.create rule)) :
    Moves ids s arrival (s.create ids arrival.now rule) := by
  unfold create
  split
  · exact .stays rfl rfl
  · next parsed read => exact .creates brings read rfl rfl

theorem moves_update {id rule : String}
    (brings : arrival.request.command? = some (.update id rule)) :
    Moves ids s arrival (s.update arrival.now id rule) := by
  unfold update
  split
  · exact .stays rfl rfl
  · next parsed read =>
    split
    · exact .stays rfl rfl
    · next catalog revised =>
      obtain ⟨record, found, rfl⟩ := Catalog.revise_eq_ok_iff.mp revised
      exact .updates brings read found rfl rfl

theorem moves_combine {sources : List String}
    (brings : arrival.request.command? = some (.combine sources)) :
    Moves ids s arrival (s.combine ids arrival.now sources) := by
  unfold combine
  split
  · exact .stays rfl rfl
  · next records found =>
    split
    · exact .stays rfl rfl
    · next draft joined =>
      exact .combines brings (Catalog.mapM_require_eq_ok_iff.mp found) joined rfl rfl

theorem moves_evaluate (id : String) (data : Json) : Moves ids s arrival (s.evaluate id data) := by
  unfold evaluate
  split
  · exact .stays rfl rfl
  · split
    · exact .stays rfl rfl
    · exact .stays rfl rfl

/-- **Every request makes one of these moves.** -/
theorem moves_handle (ids : Nat → String) (s : Shelf) (arrival : Arrival) :
    Moves ids s arrival (s.handle ids arrival) := by
  cases brings : arrival.request.command? with
  | none =>
    obtain ⟨shelf, silent⟩ := handle_of_command?_eq_none ids s brings
    exact .stays shelf silent
  | some command =>
    rw [handle_of_command? brings]
    cases command with
    | create rule => exact moves_create brings
    | update id rule => exact moves_update brings
    | combine sources => exact moves_combine brings
    | evaluate id data => exact moves_evaluate id data

end Shelf
end Rulebook
