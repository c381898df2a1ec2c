import Rulebook.Proofs.Service.Evaluation

/-!
Where the kept rules come from.

A record is written as a whole: its text, its tree and its fields all come from one request. So they
belong together for as long as the record is kept, whatever is done to other records.

* `WrittenBy`: the ways in which a request writes a record.
* `Shelf.Moves.writtenBy`: a request writes nothing, or one record in one of these ways.
* `Sourced`, `Service.sourced_respond`: every kept record has been written by a turn and by none
  behind it, and each request keeps it so.
* `Service.records_match_sources`: text, tree and fields of every record that a run leaves.
-/

namespace Rulebook

/-- The ways in which a request, by its answer, writes a record. -/
inductive WrittenBy (request : Request) (answer : Answer) (record : RuleRecord) : Prop where
  /-- With the rule of a new text. -/
  | created : request.command? = some (.create record.text) →
      answer = .created record.id record.tree →
      ParsedRule.ofText? record.text = .ok ⟨record.tree, record.fields⟩ →
      WrittenBy request answer record
  /-- With the rule of another text. -/
  | updated : request.command? = some (.update record.id record.text) →
      answer = .updated record.id →
      ParsedRule.ofText? record.text = .ok ⟨record.tree, record.fields⟩ →
      WrittenBy request answer record
  /-- With the combination of other records. -/
  | combined {sources : List RuleRecord} : answer = .combined record.id record.tree →
      RuleRecord.combine? sources = some ⟨record.text, record.tree, record.fields⟩ →
      WrittenBy request answer record

namespace WrittenBy

variable {request : Request} {answer : Answer} {record : RuleRecord}

theorem written? (h : WrittenBy request answer record) : answer.written? = some record.id := by
  rcases h with ⟨-, rfl, -⟩ | ⟨-, rfl, -⟩ | ⟨rfl, -⟩ <;> rfl

/-- The fields of a record are those of its tree, however it has been written. -/
theorem fields_eq (h : WrittenBy request answer record) : record.fields = record.tree.fields := by
  rcases h with ⟨-, -, read⟩ | ⟨-, -, read⟩ | ⟨-, joined⟩
  · exact (ParsedRule.ofText?_eq_ok_iff.mp read).2
  · exact (ParsedRule.ofText?_eq_ok_iff.mp read).2
  · obtain ⟨_, _, -, -, fields, -⟩ := RuleRecord.eq_of_combine? joined
    exact fields

end WrittenBy

/-- **A request writes nothing, or one record in one of these ways.** -/
theorem Shelf.Moves.writtenBy {ids : Nat → String} {s : Shelf} {arrival : Arrival} {deed : Deed}
    (moves : Moves ids s arrival deed) :
    deed.shelf.catalog = s.catalog ∧ deed.answer.written? = none ∨
      ∃ record, deed.shelf.catalog = s.catalog.save record ∧
        WrittenBy arrival.request deed.answer record := by
  cases moves with
  | stays shelf silent => exact .inl ⟨congrArg Shelf.catalog shelf, silent⟩
  | creates brings read shelf answer =>
    exact .inr ⟨_, congrArg Shelf.catalog shelf, .created brings answer read⟩
  | updates brings read found shelf answer =>
    obtain rfl := Catalog.id_of_get? found
    exact .inr ⟨_, congrArg Shelf.catalog shelf, .updated brings answer read⟩
  | combines _ _ joined shelf answer =>
    exact .inr ⟨_, congrArg Shelf.catalog shelf, .combined answer joined⟩

/-! ### The last write -/

/-- A record has been written by a turn, and under its id nothing has been written since. -/
def LastWritten (turns : List Turn) (record : RuleRecord) : Prop :=
  ∃ earlier turn later, turns = earlier ++ turn :: later ∧
    WrittenBy turn.request turn.reply.answer record ∧
    ∀ u ∈ later, u.reply.answer.written? ≠ some record.id

theorem LastWritten.concat {turns : List Turn} {record : RuleRecord} (h : LastWritten turns record)
    {turn : Turn} (other : turn.reply.answer.written? ≠ some record.id) :
    LastWritten (turns ++ [turn]) record := by
  obtain ⟨earlier, writer, later, rfl, written, since⟩ := h
  refine ⟨earlier, writer, later ++ [turn], by simp, written, fun u mem => ?_⟩
  rcases List.mem_append.mp mem with before | last
  · exact since u before
  · obtain rfl := List.mem_singleton.mp last
    exact other

/-- Every record of a catalog has been written in some turns. -/
def Sourced (turns : List Turn) (c : Catalog) : Prop :=
  ∀ id record, c.get? id = some record → LastWritten turns record

namespace Service

variable {ids : Nat → String} {s : Service} {turns : List Turn}

/-- **Each request keeps every record with the turn that has written it last.** -/
theorem sourced_respond (sourced : Sourced turns s.catalog) (arrival : Arrival) :
    Sourced (turns ++ [s.turn ids arrival]) (s.respond ids arrival).1.catalog := by
  intro id record found
  change (s.shelf.handle ids arrival).shelf.catalog.get? id = some record at found
  rcases (Shelf.moves_handle ids s.shelf arrival).writtenBy with
    ⟨catalog, silent⟩ | ⟨saved, catalog, written⟩
  · rw [catalog] at found
    refine (sourced id record found).concat fun wrote => ?_
    rw [show (s.turn ids arrival).reply.answer.written? = none from silent] at wrote
    cases wrote
  · rw [catalog, Catalog.get?_save] at found
    split at found
    -- What has just been saved is the last write, and any other record keeps the one it had.
    · cases found
      exact ⟨turns, s.turn ids arrival, [], rfl, written, by simp⟩
    · next other =>
      refine (sourced id record found).concat fun wrote => other ?_
      have same : some saved.id = some record.id := written.written?.symm.trans wrote
      rw [← Catalog.id_of_get? found, Option.some.inj same]

theorem sourced_run (sourced : Sourced turns s.catalog) (arrivals : List Arrival) :
    Sourced (turns ++ s.history ids arrivals) (s.run ids arrivals).1.catalog := by
  induction arrivals generalizing s turns with
  | nil =>
    have nothing : s.history ids [] = [] := rfl
    rw [nothing, List.append_nil]
    exact sourced
  | cons arrival rest ih =>
    rw [history_cons, List.append_cons]
    exact ih (sourced_respond sourced arrival)

/-- Every record that a run of a fresh service leaves has been written in it. -/
theorem sourced_history (ids : Nat → String) (arrivals : List Arrival) :
    Sourced (history ids {} arrivals) (run ids {} arrivals).1.catalog := by
  have nothing : Sourced [] (catalog {}) := fun id record found => by
    rw [show (catalog {}).get? id = none from Catalog.get?_empty id] at found
    cases found
  exact sourced_run nothing arrivals

/-- **Text, tree and fields of a record never drift apart.** Of every record that a run of a fresh
service leaves:

* the fields are those of the conditions of the tree, in ascending order;
* the last turn that has written it is a creation or an update, and then its text is the one that
  was sent and is read as the tree with the fields; or that turn is a combination, and then its
  text has the title of combinations and is refused;
* so the text is read at all exactly if it is the source of the tree. -/
theorem records_match_sources (ids : Nat → String) (arrivals : List Arrival) {record : RuleRecord}
    (kept : record ∈ (run ids {} arrivals).1.catalog.toList) :
    FieldSet.Ascending record.fields ∧
    (∀ name, name ∈ record.fields ↔ ∃ c ∈ record.tree.leaves, c.field = name) ∧
    (∃ earlier turn later, history ids {} arrivals = earlier ++ turn :: later ∧
      turn.reply.answer.written? = some record.id ∧
      (∀ u ∈ later, u.reply.answer.written? ≠ some record.id) ∧
      ((turn.reply.answer = .created record.id record.tree ∧
            turn.request.command? = some (.create record.text) ∨
          turn.reply.answer = .updated record.id ∧
            turn.request.command? = some (.update record.id record.text)) ∧
          ParsedRule.ofText? record.text = .ok ⟨record.tree, record.fields⟩ ∨
        turn.reply.answer = .combined record.id record.tree ∧
          (∃ rest, record.text = "Combined Rule: " ++ rest) ∧
          ∃ fragment, ParsedRule.ofText? record.text = .error (.invalidCondition fragment))) ∧
    ((∃ p, ParsedRule.ofText? record.text = .ok p) ↔
      ParsedRule.ofText? record.text = .ok ⟨record.tree, record.fields⟩) := by
  obtain ⟨earlier, turn, later, whole, written, since⟩ :=
    sourced_history ids arrivals record.id record (Catalog.mem_toList_iff.mp kept)
  have fields := written.fields_eq
  refine ⟨fields ▸ record.tree.ascending_fields, fun name => by
    rw [fields, RuleTree.mem_fields_iff], ⟨earlier, turn, later, whole, written.written?, since, ?_⟩,
    ?_⟩
  · cases written with
    | created brings answer read => exact .inl ⟨.inl ⟨answer, brings⟩, read⟩
    | updated brings answer read => exact .inl ⟨.inr ⟨answer, brings⟩, read⟩
    | combined answer joined => exact .inr ⟨answer, RuleRecord.ofText?_text_of_combine? joined⟩
  · refine ⟨fun ⟨p, read⟩ => ?_, fun read => ⟨_, read⟩⟩
    cases written with
    | created _ _ source => exact source
    | updated _ _ source => exact source
    | combined _ joined =>
      obtain ⟨-, fragment, refused⟩ := RuleRecord.ofText?_text_of_combine? joined
      rw [refused] at read
      cases read

/-- The combination that is kept in the run has been written by the turn that returned it, although
one of its sources has been updated since. -/
theorem combinedThenUpdated_sources :
    ∃ record ∈ (run strokeId {} combinedThenUpdated).1.catalog.toList, record.id = "rrr" ∧
      FieldSet.Ascending record.fields ∧
      ∃ earlier turn later, history strokeId {} combinedThenUpdated = earlier ++ turn :: later ∧
        turn.reply.answer = .combined "rrr" record.tree ∧
        ∀ u ∈ later, u.reply.answer.written? ≠ some "rrr" := by
  have text : ((run strokeId {} combinedThenUpdated).1.catalog.get? "rrr").map (·.text) =
      some "Combined Rule: role = admin + team = core" := by
    decide +kernel
  obtain ⟨record, found, title⟩ := Option.map_eq_some_iff.mp text
  have id := Catalog.id_of_get? found
  have kept : record ∈ (run strokeId {} combinedThenUpdated).1.catalog.toList :=
    Catalog.mem_toList_iff.mpr (id ▸ found)
  obtain ⟨ascending, -, ⟨earlier, turn, later, whole, -, since, how⟩, -⟩ :=
    records_match_sources strokeId combinedThenUpdated kept
  refine ⟨record, kept, id, ascending, earlier, turn, later, whole, ?_, id ▸ since⟩
  rcases how with ⟨-, read⟩ | ⟨combined, -⟩
  · obtain ⟨fragment, refused⟩ := RuleRecord.ofText?_title_append "role = admin + team = core"
    rw [title] at read
    exact absurd (refused.symm.trans read) (by nofun)
  · rw [combined, id]

end Service
end Rulebook
