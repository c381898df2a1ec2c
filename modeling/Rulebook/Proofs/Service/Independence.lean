import Rulebook.Proofs.Service.Contents
import Rulebook.Proofs.Service.Tally

/-!
Requests on different rules, in either order.

* `Scope.Apart`: two scopes that name different ids, at most one of which may keep a new rule.
* `Scope.Apart.seesSame`: what is put in within one of them cannot be seen within the other.
* `Scope.Apart.enter_comm`: what is put in within each may be put in in either order.
* `Request.scope`, `Shelf.handle_congr`: a request is answered alike where its scope is the same.
* `Service.either_order_agrees`: two requests that are apart have the same replies and leave the same
  contents and counters, whichever comes first.
-/

namespace Rulebook

/-! ### Scopes apart -/

namespace Scope

/-- Two scopes on different rules, where `next` is the next id to give out: they name different ids,
at most one of them may keep a new rule, and the other does not name the id that it would get. -/
structure Apart (next : String) (x y : Scope) : Prop where
  names : x.names.Disjoint y.names
  once : ¬ (x.issues = true ∧ y.issues = true)
  unnamed : x.issues = true → next ∉ y.names
  unnamed' : y.issues = true → next ∉ x.names

namespace Apart

variable {ids : Nat → String} {v : Contents} {x y : Scope} {e e' : Entry}

theorem symm {next : String} (apart : Apart next x y) : Apart next y x where
  names _ here there := apart.names there here
  once both := apart.once both.symm
  unnamed := apart.unnamed'
  unnamed' := apart.unnamed

/-- **What is put in within one scope cannot be seen within the other.** -/
theorem seesSame (apart : Apart (ids v.issued) x y) (entry : Entry.Within v x e) :
    y.SeesSame v (e.enter ids v) := by
  cases entry with
  | nothing => exact ⟨fun _ _ => rfl, fun _ => rfl⟩
  | fresh draft issues =>
    constructor
    · intro id named
      have other : id ≠ ids v.issued := fun same => apart.unnamed issues (same ▸ named)
      exact (Contents.drafts_put_of_ne draft other).symm
    · intro issues'
      exact absurd ⟨issues, issues'⟩ apart.once
  | @other first draft named _ =>
    constructor
    · intro id named'
      have other : id ≠ first := fun same => apart.names named (same ▸ named')
      exact (Contents.drafts_put_of_ne draft other).symm
    · intro _
      rfl

/-- A new rule and another one for an id that has one may be put in in either order. -/
theorem enter_fresh_comm (apart : Apart (ids v.issued) x y) (draft draft' : RuleDraft)
    (issues : x.issues = true) {id : String} (named : id ∈ y.names)
    (known : (v.drafts id).isSome = true) :
    (Entry.other id draft').enter ids ((Entry.fresh draft).enter ids v) =
      (Entry.fresh draft).enter ids ((Entry.other id draft').enter ids v) := by
  have other : ids v.issued ≠ id := fun same => apart.unnamed issues (same ▸ named)
  exact congrArg (fun w : Contents => { w with issued := v.issued + 1 })
    (Contents.put_comm draft draft' other known)

/-- **What is put in within each may be put in in either order.** -/
theorem enter_comm (apart : Apart (ids v.issued) x y) (entry : Entry.Within v x e)
    (entry' : Entry.Within v y e') : e'.enter ids (e.enter ids v) = e.enter ids (e'.enter ids v) := by
  cases entry with
  | nothing => rfl
  | fresh draft issues =>
    cases entry' with
    | nothing => rfl
    | fresh draft' issues' => exact absurd ⟨issues, issues'⟩ apart.once
    | other draft' named known => exact apart.enter_fresh_comm draft draft' issues named known
  | @other id draft named known =>
    cases entry' with
    | nothing => rfl
    | fresh draft' issues => exact (apart.symm.enter_fresh_comm draft' draft issues named known).symm
    | @other id' draft' named' known' =>
      have other : id ≠ id' := fun same => apart.names named (same ▸ named')
      exact Contents.put_comm draft draft' other known'

end Apart
end Scope

/-! ### Requests -/

/-- The scope of a request: that of the command that it brings. -/
def Request.scope (r : Request) : Scope := (r.command?.map Command.scope).getD {}

namespace Shelf

/-- What a request puts into a shelf. -/
def entryOf (s : Shelf) (r : Request) : Entry := (r.command?.map s.entry).getD .nothing

/-- **A request puts in its entry, and nothing else.** -/
theorem contents_handle (s : Shelf) (ids : Nat → String) (arrival : Arrival) :
    (s.handle ids arrival).shelf.contents = (s.entryOf arrival.request).enter ids s.contents := by
  cases brings : arrival.request.command? with
  | none =>
    rw [(idle_of_command?_eq_none ids s brings).1, entryOf, brings]
    rfl
  | some command =>
    rw [handle_of_command? brings, contents_perform, entryOf, brings]
    rfl

/-- **What a request puts in stays within its scope.** -/
theorem entryOf_within (s : Shelf) (r : Request) :
    Entry.Within s.contents r.scope (s.entryOf r) := by
  rw [entryOf, Request.scope]
  cases r.command? with
  | none => exact .nothing
  | some command => exact s.entry_within command

variable {s t : Shelf} {r : Request}

/-- A request that brings no command is answered the same whatever the rules are, unless it is for the
list of them. -/
theorem answer_of_command?_eq_none (ids : Nat → String) (now now' : Instant)
    (brings : r.command? = none) (unlisted : route r ≠ .ok .rules) :
    (s.handle ids ⟨r, now⟩).answer = (t.handle ids ⟨r, now'⟩).answer := by
  unfold handle
  cases routed : route r with
  | error reason => rfl
  | ok endpoint =>
    cases endpoint with
    | greeting => rfl
    | health => rfl
    | rules => exact absurd routed unlisted
    | task task =>
      simp only [visit, doTask]
      split
      · rfl
      · next json =>
        split
        · rfl
        · next long =>
          cases read : task.read r.body with
          | error fault => cases fault <;> rfl
          | ok command =>
            have json : r.carriesJson = true := by simpa using json
            rw [Request.command?_of_read routed json (Nat.not_lt.mp long) read] at brings
            cases brings

/-- **A request is answered, and puts in, the same where its scope is the same.** -/
theorem handle_congr (ids : Nat → String) (now now' : Instant) (unlisted : route r ≠ .ok .rules)
    (same : r.scope.SeesSame s.contents t.contents) :
    (s.handle ids ⟨r, now⟩).answer = (t.handle ids ⟨r, now'⟩).answer ∧
      s.entryOf r = t.entryOf r := by
  cases brings : r.command? with
  | none =>
    refine ⟨answer_of_command?_eq_none ids now now' brings unlisted, ?_⟩
    rw [entryOf, entryOf, brings]
    rfl
  | some command =>
    rw [Request.scope, brings] at same
    have here : s.handle ids ⟨r, now⟩ = s.perform ids now command := handle_of_command? brings
    have there : t.handle ids ⟨r, now'⟩ = t.perform ids now' command := handle_of_command? brings
    rw [here, there, entryOf, entryOf, brings]
    exact perform_congr same ids now now'

end Shelf

/-! ### The service -/

namespace Service

/-- Two requests on different rules, neither of which is for the list of rules. -/
structure Apart (ids : Nat → String) (s : Service) (r r' : Request) : Prop where
  unlisted : route r ≠ .ok .rules
  unlisted' : route r' ≠ .ok .rules
  scopes : Scope.Apart (ids s.shelf.issued) r.scope r'.scope

theorem Apart.symm {ids : Nat → String} {s : Service} {r r' : Request} (apart : Apart ids s r r') :
    Apart ids s r' r :=
  ⟨apart.unlisted', apart.unlisted, apart.scopes.symm⟩

theorem contents_respond (ids : Nat → String) (s : Service) (arrival : Arrival) :
    (s.respond ids arrival).1.shelf.contents =
      (s.shelf.entryOf arrival.request).enter ids s.shelf.contents :=
  s.shelf.contents_handle ids arrival

/-- **A request is replied alike where its scope is the same.** -/
theorem turn_congr {s t : Service} {r : Request} (ids : Nat → String) (now now' : Instant)
    (unlisted : route r ≠ .ok .rules)
    (same : r.scope.SeesSame s.shelf.contents t.shelf.contents) :
    s.turn ids ⟨r, now⟩ = t.turn ids ⟨r, now'⟩ := by
  have answer := (Shelf.handle_congr ids now now' unlisted same).1
  simp only [turn, respond, answer]

section

variable {ids : Nat → String} {s : Service} {r r' : Request}

/-- The scope of a request is the same behind another that is apart from it. -/
theorem seesSame_behind (apart : Apart ids s r r') (t : Instant) :
    r'.scope.SeesSame s.shelf.contents (s.respond ids ⟨r, t⟩).1.shelf.contents := by
  rw [contents_respond]
  exact Scope.Apart.seesSame apart.scopes (s.shelf.entryOf_within r)

/-- Behind a request that is apart from it, a request is replied as it would be in its place. -/
theorem turn_behind (apart : Apart ids s r r') (t t' u' : Instant) :
    (s.respond ids ⟨r, t⟩).1.turn ids ⟨r', t'⟩ = s.turn ids ⟨r', u'⟩ :=
  (turn_congr ids u' t' apart.unlisted' (seesSame_behind apart t)).symm

/-- Behind a request that is apart from it, a request puts in what it would in its place. -/
theorem contents_behind (apart : Apart ids s r r') (t t' : Instant) :
    ((s.respond ids ⟨r, t⟩).1.respond ids ⟨r', t'⟩).1.shelf.contents =
      (s.shelf.entryOf r').enter ids ((s.shelf.entryOf r).enter ids s.shelf.contents) := by
  have entry := (Shelf.handle_congr ids t t' apart.unlisted' (seesSame_behind apart t)).2
  rw [contents_respond, ← entry, contents_respond]

/-- Two requests that are apart add to a counter what each adds to it by itself. -/
theorem get_behind (apart : Apart ids s r r') (t t' u' : Instant) (c : Counter) :
    ((s.respond ids ⟨r, t⟩).1.respond ids ⟨r', t'⟩).1.counters.get c =
      s.counters.get c + (if c ∈ (s.turn ids ⟨r, t⟩).counts then 1 else 0) +
        if c ∈ (s.turn ids ⟨r', u'⟩).counts then 1 else 0 := by
  rw [get_respond, get_respond, turn_behind apart t t' u']

end

/-- **Requests on different rules may come in either order.** In whatever state the service is, two
requests that are apart have the same replies, and leave the same rules in the same order and the
same counters, whichever comes first. Only the times of the rules go by when the requests come in. -/
theorem either_order_agrees (ids : Nat → String) (s : Service) {r r' : Request}
    (apart : Apart ids s r r') (t t' u u' : Instant) :
    (s.run ids [⟨r, t⟩, ⟨r', t'⟩]).2.map (·.reply) =
        ((s.run ids [⟨r', u'⟩, ⟨r, u⟩]).2.map (·.reply)).reverse ∧
      (s.run ids [⟨r, t⟩, ⟨r', t'⟩]).1.shelf.contents =
        (s.run ids [⟨r', u'⟩, ⟨r, u⟩]).1.shelf.contents ∧
      (s.run ids [⟨r, t⟩, ⟨r', t'⟩]).1.catalog.toList.map (fun rule => (rule.id, rule.draft)) =
        (s.run ids [⟨r', u'⟩, ⟨r, u⟩]).1.catalog.toList.map (fun rule => (rule.id, rule.draft)) ∧
      ∀ c, (s.run ids [⟨r, t⟩, ⟨r', t'⟩]).1.counters.get c =
        (s.run ids [⟨r', u'⟩, ⟨r, u⟩]).1.counters.get c := by
  have turn : s.turn ids ⟨r, t⟩ = (s.respond ids ⟨r', u'⟩).1.turn ids ⟨r, u⟩ :=
    (turn_behind apart.symm u' u t).symm
  have turn' : (s.respond ids ⟨r, t⟩).1.turn ids ⟨r', t'⟩ = s.turn ids ⟨r', u'⟩ :=
    turn_behind apart t t' u'
  have contents : (s.run ids [⟨r, t⟩, ⟨r', t'⟩]).1.shelf.contents =
      (s.run ids [⟨r', u'⟩, ⟨r, u⟩]).1.shelf.contents :=
    calc ((s.respond ids ⟨r, t⟩).1.respond ids ⟨r', t'⟩).1.shelf.contents
      _ = (s.shelf.entryOf r').enter ids ((s.shelf.entryOf r).enter ids s.shelf.contents) :=
        contents_behind apart t t'
      _ = (s.shelf.entryOf r).enter ids ((s.shelf.entryOf r').enter ids s.shelf.contents) :=
        Scope.Apart.enter_comm apart.scopes (s.shelf.entryOf_within r) (s.shelf.entryOf_within r')
      _ = ((s.respond ids ⟨r', u'⟩).1.respond ids ⟨r, u⟩).1.shelf.contents :=
        (contents_behind apart.symm u' u).symm
  refine ⟨?_, contents, ?_, fun c => ?_⟩
  · have first := congrArg Turn.reply turn
    have second := congrArg Turn.reply turn'
    exact congrArg₂ (fun reply reply' => [reply, reply']) first second
  · exact (Shelf.list_contents _).trans ((congrArg Contents.list contents).trans
      (Shelf.list_contents _).symm)
  · have added := get_behind apart t t' u' c
    have added' := get_behind apart.symm u' u t c
    exact added.trans ((Nat.add_right_comm ..).trans added'.symm)

/-- The second rule and the combination are combined. -/
def combineOthers : Arrival := .post "/combine_rules" "[[\"rr\",\"rrr\"]]"

/-- An update and a combination of other rules, either of them first. -/
theorem updateFirst_combineOthers_agree :
    Apart strokeId withCombination updateFirst.request combineOthers.request ∧
      (withCombination.run strokeId [updateFirst, combineOthers]).2.map (·.reply.status) =
        [200, 200] ∧
      (withCombination.run strokeId [updateFirst, combineOthers]).2.map (·.reply) =
        ((withCombination.run strokeId [combineOthers, updateFirst]).2.map (·.reply)).reverse ∧
      (withCombination.run strokeId [updateFirst, combineOthers]).1.shelf.contents =
        (withCombination.run strokeId [combineOthers, updateFirst]).1.shelf.contents := by
  have update : updateFirst.request.scope = { names := ["r"] } := by decide +kernel
  have combine : combineOthers.request.scope = { names := ["rr", "rrr"], issues := true } := by
    decide +kernel
  have next : strokeId withCombination.shelf.issued = "rrrr" := by decide +kernel
  have apart : Apart strokeId withCombination updateFirst.request combineOthers.request := by
    refine ⟨by decide +kernel, by decide +kernel, ?_⟩
    rw [update, combine, next]
    exact ⟨by simp, by simp, by simp, by simp⟩
  obtain ⟨replies, contents, -, -⟩ :=
    either_order_agrees strokeId withCombination apart default default default default
  exact ⟨apart, by decide +kernel, replies, contents⟩

end Service
end Rulebook
