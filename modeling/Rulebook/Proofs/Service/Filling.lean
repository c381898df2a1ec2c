import Rulebook.Proofs.Json.Shape
import Rulebook.Service.Command

/-!
Which fields a body fills, and the command that they make.

* `Task.Unfilled`: a field that is left out or empty; `Task.Filled`, `Task.FilledTexts`,
  `Task.FilledValue`: a field that is filled.
* `Task.Asks`: the command of filled fields.
* `Task.command_eq_ok_iff`, `Task.read_eq_ok_iff`: exactly this command is read.
* `Task.Asks.not_unfilled`, `Task.exists_unfilled`: there is none exactly if a field is unfilled.
-/

namespace Rulebook

/-- The values that fill no field: null, and an empty text or list where one is to be given. -/
def Json.Shape.IsEmpty : Json.Shape → Json → Prop
  | oneText, value => value = null ∨ value = string ""
  | manyTexts, value => value = null ∨ value = array []
  | anything, value => value = null

namespace Task

/-- A field is left out or empty. -/
def Unfilled (values : List (String × Json)) (name : String) (shape : Json.Shape) : Prop :=
  ∀ value, values.lookup name = some value → shape.IsEmpty value

/-- A field is filled with a text. -/
def Filled (values : List (String × Json)) (name s : String) : Prop :=
  values.lookup name = some (.string s) ∧ s ≠ ""

/-- A field is filled with texts. -/
def FilledTexts (values : List (String × Json)) (name : String) (texts : List String) : Prop :=
  values.lookup name = some (.array (texts.map .string)) ∧ texts ≠ []

/-- A field is filled with a value; of members that come twice, the last one counts. -/
def FilledValue (values : List (String × Json)) (name : String) (data : Json) : Prop :=
  ∃ value, values.lookup name = some value ∧ value ≠ .null ∧ data = value.normalize

/-- `Asks values task command`: the fields of the task are filled, and the command is made of
them. -/
inductive Asks (values : List (String × Json)) : Task → Command → Prop where
  | create {rule} : Filled values "rule" rule → Asks values .create (.create rule)
  | update {id rule} : Filled values "ruleId" id → Filled values "updatedRuleString" rule →
      Asks values .update (.update id rule)
  | combine {ids} : FilledTexts values "ruleIds" ids → Asks values .combine (.combine ids)
  | evaluate {id data} : Filled values "ruleId" id → FilledValue values "data" data →
      Asks values .evaluate (.evaluate id data)

/-! ### One field -/

variable {values : List (String × Json)} {name : String}

theorem filledText?_eq_some_iff {s : String} :
    filledText? name values = some s ↔ Filled values name s := by
  constructor
  · intro read
    unfold filledText? at read
    split at read
    · next found =>
      split at read
      · cases read
      · next full =>
        cases read
        exact ⟨found, fun empty => full (String.isEmpty_iff.mpr empty)⟩
    · cases read
  · rintro ⟨found, full⟩
    simp [filledText?, found, String.isEmpty_iff, full]

theorem mapM_text?_eq_some_iff {items : List Json} {texts : List String} :
    items.mapM Json.text? = some texts ↔ items = texts.map .string := by
  constructor
  · intro read
    induction items generalizing texts with
    | nil =>
      cases read
      rfl
    | cons item rest ih =>
      rw [List.mapM_cons] at read
      obtain ⟨s, first, read⟩ := Option.bind_eq_some_iff.mp read
      obtain ⟨more, others, read⟩ := Option.bind_eq_some_iff.mp read
      cases read
      rw [ih others, List.map_cons]
      cases item with
      | string t =>
        cases first
        rfl
      | _ => cases first
  · rintro rfl
    induction texts with
    | nil => rfl
    | cons s more ih =>
      rw [List.map_cons, List.mapM_cons, ih]
      rfl

theorem filledTexts?_eq_some_iff {texts : List String} :
    filledTexts? name values = some texts ↔ FilledTexts values name texts := by
  constructor
  · intro read
    unfold filledTexts? at read
    split at read
    · next found =>
      split at read
      · cases read
      · next full =>
        obtain rfl := mapM_text?_eq_some_iff.mp read
        refine ⟨found, ?_⟩
        rintro rfl
        exact full rfl
    · cases read
  · rintro ⟨found, full⟩
    have read : (texts.map Json.string).mapM Json.text? = some texts :=
      mapM_text?_eq_some_iff.mpr rfl
    have some : (texts.map Json.string).isEmpty = false := by
      cases texts with
      | nil => exact absurd rfl full
      | cons s more => rfl
    simp only [filledTexts?, found, some, Bool.false_eq_true, if_false]
    exact read

theorem filledValue?_eq_some_iff {data : Json} :
    filledValue? name values = some data ↔ FilledValue values name data := by
  unfold filledValue? FilledValue
  split
  · next none => simp [none]
  · next null => simp [null]
  · next value notNull found =>
    have full : value ≠ .null := notNull
    simp [found, full, eq_comm]

/-- What is not filled is unfilled: values of other kinds are not read. -/
theorem unfilled_of_filledText?_eq_none (none : filledText? name values = none)
    (takes : ∀ value, values.lookup name = some value → Json.Shape.oneText.Takes value) :
    Unfilled values name .oneText := by
  intro value found
  rcases takes value found with null | ⟨s, rfl⟩
  · exact .inl null
  · by_cases full : s = ""
    · exact .inr (congrArg _ full)
    · rw [filledText?_eq_some_iff.mpr ⟨found, full⟩] at none
      cases none

theorem unfilled_of_filledTexts?_eq_none (none : filledTexts? name values = none)
    (takes : ∀ value, values.lookup name = some value → Json.Shape.manyTexts.Takes value) :
    Unfilled values name .manyTexts := by
  intro value found
  rcases takes value found with null | ⟨texts, rfl⟩
  · exact .inl null
  · by_cases full : texts = []
    · exact .inr (by rw [full]; rfl)
    · rw [filledTexts?_eq_some_iff.mpr ⟨found, full⟩] at none
      cases none

theorem unfilled_of_filledValue?_eq_none (none : filledValue? name values = none) :
    Unfilled values name .anything := by
  intro value found
  by_cases null : value = .null
  · exact null
  · rw [filledValue?_eq_some_iff.mpr ⟨value, found, null, rfl⟩] at none
    cases none

/-! ### All fields -/

/-- **The command that is read is that of the filled fields.** -/
theorem command_eq_ok_iff {task : Task} {command : Command} :
    task.command values = .ok command ↔ Asks values task command := by
  constructor
  · intro read
    cases task with
    | create =>
      simp only [Task.command] at read
      split at read
      · next filled =>
        cases read
        exact .create (filledText?_eq_some_iff.mp filled)
      · cases read
    | update =>
      simp only [Task.command] at read
      split at read
      · next filledId filledRule =>
        cases read
        exact .update (filledText?_eq_some_iff.mp filledId) (filledText?_eq_some_iff.mp filledRule)
      · cases read
    | combine =>
      simp only [Task.command] at read
      split at read
      · next filled =>
        cases read
        exact .combine (filledTexts?_eq_some_iff.mp filled)
      · cases read
    | evaluate =>
      simp only [Task.command] at read
      split at read
      · next filledId filledData =>
        cases read
        exact .evaluate (filledText?_eq_some_iff.mp filledId)
          (filledValue?_eq_some_iff.mp filledData)
      · cases read
  · intro asks
    cases asks with
    | create filled => simp [Task.command, filledText?_eq_some_iff.mpr filled]
    | update filledId filledRule =>
      simp [Task.command, filledText?_eq_some_iff.mpr filledId,
        filledText?_eq_some_iff.mpr filledRule]
    | combine filled => simp [Task.command, filledTexts?_eq_some_iff.mpr filled]
    | evaluate filledId filledData =>
      simp [Task.command, filledText?_eq_some_iff.mpr filledId,
        filledValue?_eq_some_iff.mpr filledData]

/-- **A body is the command that its fields ask for.** -/
theorem read_eq_ok_iff {task : Task} {body : String} {command : Command} :
    task.read body = .ok command ↔ ∃ values,
      Json.Shape.readFields task.fields body.toList = .ok values ∧ Asks values task command := by
  simp only [← command_eq_ok_iff, read]
  cases Json.Shape.readFields task.fields body.toList with
  | error fault => cases fault <;> simp
  | ok values =>
    have accepted : (task.command values).mapError BodyFault.unfilled = .ok command ↔
        task.command values = .ok command := by
      cases task.command values with
      | error lines => exact ⟨nofun, nofun⟩
      | ok other =>
        change Except.ok other = Except.ok command ↔ Except.ok other = Except.ok command
        rw [Except.ok.injEq, Except.ok.injEq]
    constructor
    · intro read
      exact ⟨values, rfl, accepted.mp read⟩
    · rintro ⟨_, same, asked⟩
      cases same
      exact accepted.mpr asked

/-- A field of a task takes one kind of values. -/
theorem shape_unique {task : Task} {shape other : Json.Shape} (field : (name, shape) ∈ task.fields)
    (again : (name, other) ∈ task.fields) : other = shape := by
  cases task <;> simp [fields] at field again <;> grind

/-- **Without a command there is an unfilled field.** -/
theorem exists_unfilled {task : Task} (taken : Json.Shape.AllTaken task.fields values)
    {lines : List String} (refused : task.command values = .error lines) :
    ∃ name shape, (name, shape) ∈ task.fields ∧ Unfilled values name shape := by
  have takes {name : String} {shape : Json.Shape} (field : (name, shape) ∈ task.fields) :
      ∀ value, values.lookup name = some value → shape.Takes value := by
    intro value found
    obtain ⟨other, again, takes⟩ := taken.of_lookup found
    rwa [shape_unique field again] at takes
  cases task with
  | create =>
    have rule : ("rule", Json.Shape.oneText) ∈ create.fields := by simp [fields]
    cases filled : filledText? "rule" values with
    | some s => simp [Task.command, filled] at refused
    | none => exact ⟨_, _, rule, unfilled_of_filledText?_eq_none filled (takes rule)⟩
  | update =>
    have id : ("ruleId", Json.Shape.oneText) ∈ update.fields := by simp [fields]
    have rule : ("updatedRuleString", Json.Shape.oneText) ∈ update.fields := by simp [fields]
    cases filledId : filledText? "ruleId" values with
    | none => exact ⟨_, _, id, unfilled_of_filledText?_eq_none filledId (takes id)⟩
    | some s =>
      cases filledRule : filledText? "updatedRuleString" values with
      | none => exact ⟨_, _, rule, unfilled_of_filledText?_eq_none filledRule (takes rule)⟩
      | some t => simp [Task.command, filledId, filledRule] at refused
  | combine =>
    have ids : ("ruleIds", Json.Shape.manyTexts) ∈ combine.fields := by simp [fields]
    cases filled : filledTexts? "ruleIds" values with
    | some texts => simp [Task.command, filled] at refused
    | none => exact ⟨_, _, ids, unfilled_of_filledTexts?_eq_none filled (takes ids)⟩
  | evaluate =>
    have id : ("ruleId", Json.Shape.oneText) ∈ evaluate.fields := by simp [fields]
    have data : ("data", Json.Shape.anything) ∈ evaluate.fields := by simp [fields]
    cases filledId : filledText? "ruleId" values with
    | none => exact ⟨_, _, id, unfilled_of_filledText?_eq_none filledId (takes id)⟩
    | some s =>
      cases filledData : filledValue? "data" values with
      | none => exact ⟨_, _, data, unfilled_of_filledValue?_eq_none filledData⟩
      | some value => simp [Task.command, filledId, filledData] at refused

end Task
end Rulebook
