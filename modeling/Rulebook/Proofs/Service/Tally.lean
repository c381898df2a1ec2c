import Rulebook.Proofs.Service.Effect
import Rulebook.Proofs.Service.Outcome

/-!
The counters against what has been answered.

What a request adds to the counters can be told from its answer, and the answer from the reply. So
each counter stands at the number of turns that show in their request and reply that they have been
counted, and so does the number of rules.

* `Turn.Is`, `Turn.Evaluated`, `Turn.RefusedUnder`: what a turn shows.
* `Shelf.counts_handle`: what is counted goes by the answer.
* `Service.get_respond`, `Service.size_respond`: what a request adds to a counter and to the rules.
* `Service.counted_run`: what goes up with every turn of a kind stands at their number.
* `Service.counters_agree_with_history`: all counters after every run of a fresh service.
-/

namespace Rulebook

/-! ### What a turn shows -/

namespace Turn

/-- A turn with a method, a path and a status. -/
def Is (t : Turn) (method path : String) (status : Nat) : Prop :=
  t.request.method = method ∧ t.request.path = path ∧ t.reply.status = status

/-- An evaluation whose reply says its outcome. -/
def Evaluated (t : Turn) (result : Bool) : Prop :=
  t.Is "POST" "/evaluate_rule" 200 ∧ t.reply.member? "result" = some (.bool result)

/-- A creation or an update whose reply says a code. -/
def RefusedUnder (t : Turn) (code : String) : Prop :=
  t.request.path ∈ ["/create_rule", "/update_rule"] ∧
    t.reply.member? "code" = some (.string code)

instance (t : Turn) (method path : String) (status : Nat) : Decidable (t.Is method path status) :=
  inferInstanceAs (Decidable (_ ∧ _ ∧ _))

instance (t : Turn) (result : Bool) : Decidable (t.Evaluated result) :=
  inferInstanceAs (Decidable (_ ∧ _))

instance (t : Turn) (code : String) : Decidable (t.RefusedUnder code) :=
  inferInstanceAs (Decidable (_ ∧ _))

end Turn

/-! ### What is counted -/

/-- What is counted when something is answered, besides the request itself. -/
def Answer.counts : Answer → List Counter
  | evaluated result => [.evaluations result]
  | failed (.invalidRule cause) => [.parseFailures cause.code]
  | _ => []

namespace Turn

/-- What is counted for a turn. -/
def counts (t : Turn) : List Counter :=
  t.reply.answer.counts ++ [.requests t.request.method t.request.path t.reply.status]

variable {t : Turn}

theorem requests_mem_counts_iff {method path : String} {status : Nat} :
    .requests method path status ∈ t.counts ↔ t.Is method path status := by
  have other : .requests method path status ∉ t.reply.answer.counts := by
    unfold Answer.counts
    split <;> simp
  simp [counts, other, Is, eq_comm]

theorem evaluations_mem_counts_iff {matched : Bool} :
    .evaluations matched ∈ t.counts ↔ t.reply.answer = .evaluated matched := by
  unfold counts Answer.counts
  split
  · next result answer => simp [answer, eq_comm]
  · next cause answer => simp [answer]
  · next other _ => simpa using (other matched ·)

theorem parseFailures_mem_counts_iff {code : String} : .parseFailures code ∈ t.counts ↔
    ∃ cause, t.reply.answer = .failed (.invalidRule cause) ∧ cause.code = code := by
  unfold counts Answer.counts
  split
  · next result answer => simp [answer]
  · next cause answer => simp [answer, eq_comm]
  · next _ other => simpa using fun cause answer => absurd answer (other cause)

/-- Nothing is counted twice. -/
theorem nodup_counts (t : Turn) : t.counts.Nodup := by
  unfold counts Answer.counts
  split <;> simp

end Turn

/-- The records of several ids are refused for one that has none. -/
theorem Catalog.exists_eq_notFound_of_mapM {c : Catalog} {sources : List String} {e : RuleError}
    (h : sources.mapM c.require = .error e) : ∃ id, e = .notFound id := by
  rcases c.known_or_first_unknown sources with known | ⟨front, id, back, rfl, known, unknown⟩
  · obtain ⟨records, found⟩ := exists_mapM_require known
    rw [found] at h
    cases h
  · rw [mapM_require_of_unknown known unknown] at h
    cases h
    exact ⟨id, rfl⟩

namespace Shelf

theorem counts_perform (s : Shelf) (ids : Nat → String) (now : Instant) (command : Command) :
    (s.perform ids now command).counts = (s.perform ids now command).answer.counts := by
  cases command with
  | create rule =>
    simp only [perform, create]
    split
    · rfl
    · rfl
  | update id rule =>
    simp only [perform, update]
    split
    · rfl
    · split
      · next e missing =>
        obtain rfl := Catalog.eq_notFound_of_revise missing
        rfl
      · rfl
  | combine sources =>
    simp only [perform, combine]
    split
    · next e missing =>
      obtain ⟨id, rfl⟩ := Catalog.exists_eq_notFound_of_mapM missing
      rfl
    · split
      · rfl
      · rfl
  | evaluate id data =>
    simp only [perform, evaluate]
    split
    · next e missing =>
      obtain rfl := Catalog.eq_notFound_of_require missing
      rfl
    · split
      · next e lacks =>
        obtain ⟨-, rfl⟩ := execute_eq_error_iff.mp lacks
        rfl
      · rfl

/-- **What is counted goes by the answer.** -/
theorem counts_handle (s : Shelf) (ids : Nat → String) (arrival : Arrival) :
    (s.handle ids arrival).counts = (s.handle ids arrival).answer.counts := by
  unfold handle
  split
  · rfl
  · next endpoint routed =>
    cases endpoint with
    | greeting => rfl
    | health => rfl
    | rules => rfl
    | task task =>
      simp only [visit, doTask]
      split
      · rfl
      · split
        · rfl
        · split
          · rfl
          · rfl
          · rfl
          · exact counts_perform ..

end Shelf

theorem Counters.get_foldl_bump (cs : Counters) (counts : List Counter) (c : Counter) :
    (counts.foldl bump cs).get c = cs.get c + counts.count c := by
  induction counts generalizing cs with
  | nil => rfl
  | cons d rest ih =>
    rw [List.foldl_cons, ih, get_bump, List.count_cons]
    by_cases same : d = c
    · simp [same]
      omega
    · simp [same]

/-! ### What the replies show -/

namespace ServiceError

/-- Only a refused rule has the code of a cause. -/
theorem code_eq_parse_code_iff {error : ServiceError} {cause : ParseError} :
    error.code = cause.code ↔ ∃ other, error = .invalidRule other ∧ other.code = cause.code := by
  cases error with
  | invalidRule other => simp [code]
  | _ => cases cause <;> simp [code, ParseError.code]

end ServiceError

namespace Service

variable {ids : Nat → String} {s : Service} {arrival : Arrival}

/-- **A task succeeds exactly where a request is posted to its path with the status of success.** -/
theorem is_posted_iff (task : Task) : (s.turn ids arrival).Is "POST" task.path 200 ↔
    (s.turn ids arrival).reply.answer.endpoint? = some (.task task) := by
  constructor
  · rintro ⟨-, path, status⟩
    exact endpoint?_of_path (rfl : s.respond ids arrival = (_, _)) status
      (Endpoint.ofPath?_eq_task_iff.mpr path)
  · intro origin
    have routed := Shelf.route_of_endpoint? origin
    exact ⟨method_of_route routed, path_of_route routed, Answer.status_eq_ok_iff.mpr ⟨_, origin⟩⟩

/-- The outcome of an evaluation is what its reply says. -/
theorem evaluated_iff {result : Bool} : (s.turn ids arrival).Evaluated result ↔
    (s.turn ids arrival).reply.answer = .evaluated result := by
  have posted : (s.turn ids arrival).Is "POST" "/evaluate_rule" 200 ↔ _ := is_posted_iff .evaluate
  have shown {outcome : Bool} (answer : (s.turn ids arrival).reply.answer = .evaluated outcome) :
      (s.turn ids arrival).reply.member? "result" = some (.bool outcome) := by
    have routed : route arrival.request = .ok (.task .evaluate) :=
      Shelf.route_of_endpoint? (congrArg Answer.endpoint? answer)
    rw [Reply.member?, content_of_route ids s routed, answer]
    rfl
  rw [Turn.Evaluated, posted]
  constructor
  · rintro ⟨origin, member⟩
    cases answer : (s.turn ids arrival).reply.answer with
    | evaluated outcome =>
      rw [shown answer] at member
      cases member
      rfl
    | _ =>
      rw [answer] at origin
      cases origin
  · intro answer
    exact ⟨congrArg Answer.endpoint? answer, shown answer⟩

/-- The code of a refused rule is what its reply says. -/
theorem refusedUnder_iff {cause : ParseError} : (s.turn ids arrival).RefusedUnder cause.code ↔
    ∃ other, (s.turn ids arrival).reply.answer = .failed (.invalidRule other) ∧
      other.code = cause.code := by
  constructor
  · rintro ⟨-, member⟩
    obtain ⟨error, answer, same⟩ := Reply.exists_failed_of_code member
    obtain ⟨other, rfl, code⟩ := ServiceError.code_eq_parse_code_iff.mp same
    exact ⟨other, answer, code⟩
  · rintro ⟨other, answer, same⟩
    have fails : Shelf.Fails arrival (.invalidRule other) := Shelf.fails_of_handle answer
    cases fails with
    | invalidRule brings comes _ =>
      obtain ⟨task, values, decodes, asks⟩ := Request.command?_eq_some_iff.mp brings
      constructor
      · change arrival.request.path ∈ _
        rw [path_of_route decodes.routed]
        cases asks <;> cases comes <;> simp [Task.path]
      · rw [Reply.member?, content_of_route ids s decodes.routed, answer, ← same]
        rfl

/-! ### Step by step -/

/-- **What a request adds to a counter.** -/
theorem get_respond (ids : Nat → String) (s : Service) (arrival : Arrival) (c : Counter) :
    (s.respond ids arrival).1.counters.get c =
      s.counters.get c + if c ∈ (s.turn ids arrival).counts then 1 else 0 := by
  have counted : (s.respond ids arrival).1.counters =
      (s.turn ids arrival).counts.foldl Counters.bump s.counters := by
    change ((s.shelf.handle ids arrival).counts ++ _).foldl Counters.bump s.counters = _
    rw [Shelf.counts_handle]
    rfl
  rw [counted, Counters.get_foldl_bump, (Turn.nodup_counts _).count]

/-- **What a request adds to the rules.** -/
theorem size_respond (distinct : Function.Injective ids) (reachable : Reachable ids s)
    (arrival : Arrival) : (s.respond ids arrival).1.catalog.size =
      s.catalog.size + if (s.turn ids arrival).reply.answer.issued? ≠ none then 1 else 0 := by
  have answered := (Prod.eta (s.respond ids arrival)).symm
  cases issued : (s.turn ids arrival).reply.answer.issued? with
  | some id =>
    obtain ⟨record, next, -, saved⟩ := exists_save_of_issued answered issued
    have new : s.catalog.get? record.id = none := by rw [next, reachable.fresh distinct]
    rw [saved, Catalog.size_save, new]
    rfl
  | none =>
    cases written : (s.turn ids arrival).reply.answer.written? with
    | none => exact congrArg (·.catalog.size) (shelf_of_not_written answered written)
    | some id =>
      have updated : (s.turn ids arrival).reply.answer = .updated id :=
        Answer.eq_updated_of_written? written issued
      obtain ⟨record, text, parsed, -, -, found, saved⟩ := exists_save_of_updated answered updated
      obtain rfl := Catalog.id_of_get? found
      have known : s.catalog.get? (Catalog.revised record (.ofParsed text parsed) arrival.now).id =
          some record := found
      rw [saved, Catalog.size_save, known]
      rfl

/-- **What goes up with every turn of a kind stands at their number.** -/
theorem counted_run {f : Service → Nat} {p : Turn → Prop} [DecidablePred p] (start : f {} = 0)
    (step : ∀ s, Reachable ids s → ∀ arrival,
      f (s.respond ids arrival).1 = f s + if p (s.turn ids arrival) then 1 else 0)
    (arrivals : List Arrival) :
    f (run ids {} arrivals).1 = (history ids {} arrivals).countP fun t => p t := by
  induction arrivals using List.reverseRecOn with
  | nil => exact start
  | append_singleton earlier arrival ih =>
    have reachable : Reachable ids (run ids {} earlier).1 := ⟨earlier, rfl⟩
    have last : (run ids {} (earlier ++ [arrival])).1 =
        ((run ids {} earlier).1.respond ids arrival).1 := by
      rw [run_append_fst]
      rfl
    have turns : history ids {} (earlier ++ [arrival]) =
        history ids {} earlier ++ [(run ids {} earlier).1.turn ids arrival] := by
      rw [history_append]
      rfl
    rw [last, step _ reachable, turns, List.countP_append, List.countP_singleton, ih]
    simp only [decide_eq_true_eq]

/-! ### Whole runs -/

/-- A counter that a turn shows in its request and reply stands at the number of turns that do. -/
theorem get_run {c : Counter} {p : Turn → Prop} [DecidablePred p]
    (shown : ∀ s arrival, c ∈ (turn ids s arrival).counts ↔ p (turn ids s arrival))
    (arrivals : List Arrival) : (run ids {} arrivals).1.counters.get c =
      (history ids {} arrivals).countP fun t => p t := by
  apply counted_run (f := fun s => s.counters.get c) rfl
  intro s _ arrival
  simp only [get_respond, shown]

/-- Two counters that never go up together stand at the number of turns that either shows. -/
theorem get_add_get_run {c d : Counter} {p : Turn → Prop} [DecidablePred p]
    (apart : ∀ s arrival, c ∈ (turn ids s arrival).counts → d ∉ (turn ids s arrival).counts)
    (shown : ∀ s arrival, c ∈ (turn ids s arrival).counts ∨ d ∈ (turn ids s arrival).counts ↔
      p (turn ids s arrival)) (arrivals : List Arrival) :
    (run ids {} arrivals).1.counters.get c + (run ids {} arrivals).1.counters.get d =
      (history ids {} arrivals).countP fun t => p t := by
  apply counted_run (f := fun s => s.counters.get c + s.counters.get d) rfl
  intro s _ arrival
  simp only [get_respond, ← shown]
  by_cases first : c ∈ (turn ids s arrival).counts
  · have notSecond := apart s arrival first
    simp only [first, notSecond, if_true, if_false, true_or]
    omega
  · by_cases second : d ∈ (turn ids s arrival).counts
    · simp only [first, second, if_true, if_false, or_true]
      omega
    · simp only [first, second, if_false, or_self]
      omega

/-- Every evaluation that succeeds has one of the two outcomes. -/
theorem evaluations_run (ids : Nat → String) (arrivals : List Arrival) :
    (run ids {} arrivals).1.counters.get (.evaluations true) +
        (run ids {} arrivals).1.counters.get (.evaluations false) =
      (history ids {} arrivals).countP fun t => t.Is "POST" "/evaluate_rule" 200 := by
  apply get_add_get_run
  · intro s arrival met notMet
    rw [Turn.evaluations_mem_counts_iff] at met notMet
    cases met.symm.trans notMet
  · intro s arrival
    have posted : (s.turn ids arrival).Is "POST" "/evaluate_rule" 200 ↔ _ :=
      is_posted_iff .evaluate
    rw [Turn.evaluations_mem_counts_iff, Turn.evaluations_mem_counts_iff, posted]
    cases (s.turn ids arrival).reply.answer with
    | evaluated result => cases result <;> simp [Answer.endpoint?]
    | _ => simp [Answer.endpoint?]

/-- Every id that is given out goes to a creation or a combination that succeeds. -/
theorem issues_run (ids : Nat → String) (arrivals : List Arrival) :
    (run ids {} arrivals).1.counters.get (.requests "POST" "/create_rule" 200) +
        (run ids {} arrivals).1.counters.get (.requests "POST" "/combine_rules" 200) =
      (history ids {} arrivals).countP fun t => t.reply.answer.issued? ≠ none := by
  apply get_add_get_run
  · intro s arrival created combined
    rw [Turn.requests_mem_counts_iff] at created combined
    have paths : "/create_rule" = "/combine_rules" := created.2.1.symm.trans combined.2.1
    simp at paths
  · intro s arrival
    have created : (s.turn ids arrival).Is "POST" "/create_rule" 200 ↔ _ := is_posted_iff .create
    have combined : (s.turn ids arrival).Is "POST" "/combine_rules" 200 ↔ _ :=
      is_posted_iff .combine
    rw [Turn.requests_mem_counts_iff, Turn.requests_mem_counts_iff, created, combined]
    cases (s.turn ids arrival).reply.answer <;> simp [Answer.endpoint?, Answer.issued?]

theorem size_run (distinct : Function.Injective ids) (arrivals : List Arrival) :
    (run ids {} arrivals).1.catalog.size =
      (history ids {} arrivals).countP fun t => t.reply.answer.issued? ≠ none :=
  counted_run (f := fun s => s.catalog.size) rfl
    (fun _ reachable arrival => size_respond distinct reachable arrival) arrivals

/-- **The counters agree with what has been answered.** After every run of a fresh service, whose
new ids are distinct:

* requests are counted by method, path and status, whatever becomes of them;
* evaluations are counted by the outcome that their replies say;
* refusals are counted by the code that the replies to creations and updates say, if it is the code
  of a cause, and no other code is counted;
* the evaluations of both outcomes are all the evaluations that succeed;
* there are as many rules as creations and combinations that succeed. -/
theorem counters_agree_with_history (distinct : Function.Injective ids) (arrivals : List Arrival) :
    let s := (run ids {} arrivals).1
    let turns := history ids {} arrivals
    (∀ method path status, s.counters.get (.requests method path status) =
      turns.countP fun t => t.Is method path status) ∧
    (∀ result, s.counters.get (.evaluations result) = turns.countP fun t => t.Evaluated result) ∧
    (∀ cause : ParseError, s.counters.get (.parseFailures cause.code) =
      turns.countP fun t => t.RefusedUnder cause.code) ∧
    (∀ code, (∀ cause : ParseError, cause.code ≠ code) →
      s.counters.get (.parseFailures code) = 0) ∧
    s.counters.get (.evaluations true) + s.counters.get (.evaluations false) =
      s.counters.get (.requests "POST" "/evaluate_rule" 200) ∧
    s.catalog.size = s.counters.get (.requests "POST" "/create_rule" 200) +
      s.counters.get (.requests "POST" "/combine_rules" 200) := by
  intro s turns
  have requests (method path : String) (status : Nat) :
      s.counters.get (.requests method path status) =
        turns.countP fun t => t.Is method path status :=
    get_run (fun _ _ => Turn.requests_mem_counts_iff) arrivals
  refine ⟨requests, ?_, ?_, ?_, ?_, ?_⟩
  · intro result
    apply get_run
    intro s arrival
    exact Turn.evaluations_mem_counts_iff.trans evaluated_iff.symm
  · intro cause
    apply get_run
    intro s arrival
    exact Turn.parseFailures_mem_counts_iff.trans refusedUnder_iff.symm
  · intro code noCause
    have never : s.counters.get (.parseFailures code) = turns.countP fun _ => False := by
      apply get_run
      intro s arrival
      rw [Turn.parseFailures_mem_counts_iff, iff_false]
      rintro ⟨cause, -, same⟩
      exact noCause cause same
    simpa using never
  · rw [requests]
    exact evaluations_run ids arrivals
  · rw [size_run distinct, issues_run ids]

/-- Creations, a combination and evaluations, some of which fail, and requests that go nowhere. -/
def mixedRun : List Arrival :=
  [.post "/create_rule" "[\"role = admin\"]", .post "/create_rule" "[\"  \"]",
    .post "/create_rule?again" "[\"team = core\"]", .post "/update_rule" "[\"none\",\" \"]",
    .post "/create_rule" "[\"\"]", .post "/combine_rules" "[[\"r\",\"rr\"]]",
    .post "/evaluate_rule" "[\"rrr\",\x7b\"role\":\"admin\",\"team\":\"core\"\x7d]",
    .post "/evaluate_rule" "[\"rrr\",\x7b\"role\":\"guest\",\"team\":\"core\"\x7d]",
    .post "/evaluate_rule" "[\"rrr\",\x7b\"role\":\"admin\"\x7d]", .post "/nowhere" "",
    .post "/rules" ""]

/-- Only what succeeds is counted as an evaluation or a rule, and only refused texts as refusals. -/
theorem mixedRun_counted :
    let s := (run strokeId {} mixedRun).1
    Function.Injective strokeId ∧ (∀ cause : ParseError, cause.code ≠ "VALIDATION_ERROR") ∧
    s.counters.get (.parseFailures "VALIDATION_ERROR") = 0 ∧ s.catalog.size = 3 ∧
    s.counters.get (.requests "POST" "/rules" 405) = 1 ∧
    s.counters.get (.requests "POST" "/evaluate_rule" 200) = 2 ∧
    s.counters.get (.evaluations true) = 1 ∧
    s.counters.get (.parseFailures ParseError.emptyInput.code) = 2 := by
  obtain ⟨requests, evaluations, refusals, noOthers, both, rules⟩ :=
    counters_agree_with_history strokeId_injective mixedRun
  have noCause : ∀ cause : ParseError, cause.code ≠ "VALIDATION_ERROR" := by
    intro cause
    cases cause <;> simp [ParseError.code]
  refine ⟨strokeId_injective, noCause, noOthers _ noCause, ?_⟩
  rw [rules, ← both, requests, requests, requests, evaluations, evaluations, refusals]
  decide +kernel

end Service
end Rulebook
