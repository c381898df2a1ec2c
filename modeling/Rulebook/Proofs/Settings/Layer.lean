import Mathlib.Data.List.Basic
import Rulebook.Settings.Layer

/-!
What layers come to, told path by path.

An entry of a layer changes the value at a path by what the entry says and by what was at that path,
whatever else the table holds. So the value that layers come to is followed at one path, entry by
entry, and the other paths are not looked at.

* `Setting.value?`: the value at the end of a path of names.
* `Setting.revise`: what an entry makes of the value at a path.
* `Setting.value?_change`: an entry does nothing else to the path.
* `Layer.value?_merge`: so layers come to what their entries make of the value, one by one.
* `Setting.given?`: what an entry says of a path, told from the entry alone.
* `Setting.revise_eq_or_mixed`: where entries put nothing but tables on the way, the last one that
  says anything is heard, or there is a table or a list that was put together.
-/

namespace Rulebook

namespace Setting

/-! ### Values at paths -/

/-- The value at the end of a path of names. -/
def value? : List String → Setting → Option Setting
  | [], s => some s
  | name :: rest, s => (s.entries.lookup name).bind (value? rest)

theorem lookup_cons_eq (key name : String) (value : Setting) (rest : List (String × Setting)) :
    ((name, value) :: rest).lookup key = if name = key then some value else rest.lookup key := by
  by_cases same : name = key
  · rw [if_pos same, same, List.lookup_cons_self]
  · rw [if_neg same, List.lookup_cons, beq_false_of_ne (Ne.symm same)]

theorem lookup_alter (name key : String) (f : Setting → Setting)
    (entries : List (String × Setting)) :
    (alter name f entries).lookup key =
      if name = key then some (f ((entries.lookup key).getD nothing)) else entries.lookup key := by
  induction entries with
  | nil => exact lookup_cons_eq key name _ []
  | cons entry rest ih =>
    obtain ⟨first, old⟩ := entry
    by_cases here : first = name
    · subst here
      simp only [alter, if_pos, lookup_cons_eq]
      split <;> rfl
    · simp only [alter, if_neg here, lookup_cons_eq, ih]
      by_cases found : first = key
      · subst found
        simp [Ne.symm here]
      · simp [found]

/-- What is at a path after a value was put at the end of another one. A table that is put above the
path is merged in entry by entry; any other value there, and a list, leave nothing at the path. -/
def revise : List String → List Step → Setting → Option Setting → Option Setting
  | [], path, value, old => some (change value.onto path (old.getD nothing))
  | name :: rest, .name top :: path, value, old =>
    if top = name then revise rest path value old else old
  | _ :: _, .item _ :: _, _, _ => none
  | name :: rest, [], table entries, old =>
    entries.foldl (fun old entry => if entry.1 = name then revise rest [] entry.2 old else old) old
  | _ :: _, [], _, _ => none

/-- Where there is nothing, an entry finds nothing. -/
theorem revise_value?_nothing (names : List String) (path : List Step) (value : Setting) :
    revise names path value (value? names nothing) = revise names path value none := by
  cases names <;> rfl

/-- `value?_change` one name further, for what is changed behind the name. -/
theorem value?_alter {names : List String} {path : List Step} {value : Setting}
    (behind : ∀ s, value? names (change value.onto path s) =
      revise names path value (value? names s)) (name top : String)
    (entries : List (String × Setting)) :
    value? (name :: names) (table (alter top (change value.onto path) entries)) =
      revise (name :: names) (.name top :: path) value
        (value? (name :: names) (table entries)) := by
  simp only [value?, Setting.entries, lookup_alter, revise]
  by_cases same : top = name
  · rw [if_pos same, if_pos same, Option.bind_some, behind]
    cases lookup : List.lookup name entries with
    | none => exact revise_value?_nothing names path value
    | some old => rfl
  · rw [if_neg same, if_neg same]

/-- **An entry changes the value at a path by what was there, and by nothing else.** -/
theorem value?_change (names : List String) (path : List Step) (value s : Setting) :
    value? names (change value.onto path s) = revise names path value (value? names s) := by
  induction names generalizing path value s with
  | nil => rfl
  | cons name rest ih =>
    match path with
    | .name top :: path => exact value?_alter (fun s => ih path value s) name top s.entries
    | .item place :: path => rfl
    | [] =>
      cases value with
      | table upper =>
        change value? (name :: rest) (table (entriesOnto upper s.entries)) = _
        have below : value? (name :: rest) s = value? (name :: rest) (table s.entries) := rfl
        rw [below]
        generalize s.entries = lower
        induction upper generalizing lower with
        | nil => rfl
        | cons entry upper merged =>
          have first := value?_alter (fun s => ih [] entry.2 s) name entry.1 lower
          rw [revise] at first
          have next := merged (alter entry.1 entry.2.onto lower)
          rw [revise] at next
          rw [revise, List.foldl_cons, ← first]
          exact next
      | nothing => rfl
      | flag b => rfl
      | integer n => rfl
      | real negative x => rfl
      | notANumber => rfl
      | text t => rfl
      | list items => rfl

/-! ### What entries say -/

/-- What an entry says of a path, told from the entry alone: its value, if its name leads there, and
what its table holds, if its name leads to a table on the way. Of entries of a table with the same
name the last is heard. -/
def given? : List String → List Step → Setting → Option Setting
  | [], [], value => some value
  | name :: rest, .name top :: path, value => if top = name then given? rest path value else none
  | name :: rest, [], table entries =>
    entries.reverse.findSome? fun entry => if entry.1 = name then given? rest [] entry.2 else none
  | _, _, _ => none

/-- Whether an entry leads to a place in a list that is at the end of a path. -/
def leadsInto : List String → List Step → Bool
  | [], .item _ :: _ => true
  | name :: rest, .name top :: path => top = name && leadsInto rest path
  | _, _ => false

@[simp] theorem leadsInto_nil (names : List String) : leadsInto names [] = false := by
  cases names <;> rfl

/-- Nothing but tables is put on the way to a path. -/
def Passes : List String → List Step → Setting → Prop
  | [], _, _ => True
  | name :: rest, .name top :: path, value => top = name → Passes rest path value
  | name :: rest, [], table entries => ∀ entry ∈ entries, entry.1 = name → Passes rest [] entry.2
  | _, _, _ => False

/-- Values that can be put together: tables and, where places are set, lists. -/
inductive Mixed (placed : Prop) : Setting → Prop where
  | table {entries} : Mixed placed (table entries)
  | list {items} : placed → Mixed placed (list items)

theorem Mixed.imp {placed placed' : Prop} {s : Setting} (h : Mixed placed s)
    (more : placed → placed') : Mixed placed' s := by
  cases h with
  | table => exact .table
  | list isPlaced => exact .list (more isPlaced)

theorem findSome?_reverse_cons {α β : Type} (f : α → Option β) (a : α) (rest : List α) :
    (a :: rest).reverse.findSome? f = (rest.reverse.findSome? f).or (f a) := by
  rw [List.reverse_cons, List.findSome?_append, List.findSome?_singleton]

/-- Of steps each of which is heard if it says anything, the last that says anything is heard,
unless something else comes of a step that is followed by none such. -/
theorem foldl_eq_last_or {α : Type} {step : Option Setting → α → Option Setting}
    {told : α → Option Setting} {p : Option Setting → Prop} {steps : List α}
    (each : ∀ a ∈ steps, ∀ old, step old a = (told a).or old ∨ p (step old a))
    (old : Option Setting) :
    steps.foldl step old = (steps.reverse.findSome? told).or old ∨ p (steps.foldl step old) := by
  induction steps generalizing old with
  | nil => exact .inl rfl
  | cons a rest ih =>
    obtain ⟨first, each⟩ := List.forall_mem_cons.mp each
    rw [List.foldl_cons, findSome?_reverse_cons]
    rcases ih each (step old a) with heard | differs
    · rw [heard]
      cases rest.reverse.findSome? told with
      | some value => exact .inl rfl
      | none => simpa using first old
    · exact .inr differs

/-- **An entry that passes by a path is heard if it says anything, and else leaves the path as it
is,** unless a table or a list is put together. -/
theorem revise_eq_or_mixed {names : List String} {path : List Step} {value : Setting}
    (passes : Passes names path value) (old : Option Setting) :
    revise names path value old = (given? names path value).or old ∨
      ∃ s, revise names path value old = some s ∧ Mixed (leadsInto names path = true) s := by
  induction names generalizing path value old with
  | nil =>
    match path with
    | .name top :: path => exact .inr ⟨_, rfl, .table⟩
    | .item place :: path => exact .inr ⟨_, rfl, .list rfl⟩
    | [] =>
      cases value with
      | table entries => exact .inr ⟨_, rfl, .table⟩
      | _ => exact .inl rfl
  | cons name rest ih =>
    match path with
    | .name top :: path =>
      by_cases same : top = name
      · simpa [revise, given?, leadsInto, same] using ih (passes same) old
      · simp [revise, given?, same]
    | [] =>
      cases value with
      | table entries =>
        refine foldl_eq_last_or (p := fun s => ∃ t, s = some t ∧ Mixed _ t)
          (fun entry mem old => ?_) old
        by_cases same : entry.1 = name
        · simpa only [if_pos same, leadsInto_nil] using ih (passes entry mem same) old
        · exact .inl (by simp only [if_neg same, Option.none_or])
      | _ => cases passes

/-- A value that is no table, and whose name neither leads to a path nor past it, changes nothing
there. -/
theorem revise_eq_self {names : List String} {path : List Step} {value : Setting}
    (passes : Passes names path value) (noTable : ∀ entries, value ≠ table entries)
    (apart : ¬names.map Step.name <+: path) (old : Option Setting) :
    revise names path value old = old := by
  induction names generalizing path with
  | nil => exact absurd List.nil_prefix apart
  | cons name rest ih =>
    match path with
    | .name top :: path =>
      by_cases same : top = name
      · subst same
        rw [revise, if_pos rfl]
        exact ih (passes rfl) fun before => apart (List.cons_prefix_cons.mpr ⟨rfl, before⟩)
      · rw [revise, if_neg same]
    | [] =>
      cases value with
      | table entries => exact absurd rfl (noTable entries)
      | _ => cases passes

/-- Every name leads into a table. -/
theorem path_eq_cons (name : String) : ∃ top rest, path name = .name top :: rest := by
  unfold path
  cases parts : (Text.cut '.' name.toList).mapM part? with
  | none => exact ⟨name, [], rfl⟩
  | some steps =>
    cases cut : Text.cut '.' name.toList with
    | nil => exact absurd cut (Text.cut_ne_nil _ _)
    | cons part others =>
      rw [cut, List.mapM_cons] at parts
      obtain ⟨first, isFirst, parts⟩ := Option.bind_eq_some_iff.mp parts
      obtain ⟨others, -, parts⟩ := Option.bind_eq_some_iff.mp parts
      cases parts
      rw [part?] at isFirst
      split at isFirst
      · cases isFirst
      · obtain ⟨items, -, rfl⟩ := Option.map_eq_some_iff.mp isFirst
        exact ⟨_, _, rfl⟩

end Setting

namespace Layer

/-! ### Layers on top of each other -/

/-- What a layer makes of the value at a path, entry by entry. -/
def revise (names : List String) (layer : Layer) (old : Option Setting) : Option Setting :=
  layer.foldl (fun old entry => Setting.revise names (Setting.path entry.1) entry.2 old) old

theorem value?_onto (names : List String) (layer : Layer) (below : Setting) :
    (layer.onto below).value? names = layer.revise names (below.value? names) := by
  induction layer generalizing below with
  | nil => rfl
  | cons entry rest ih =>
    rw [revise, List.foldl_cons, ← Setting.value?_change]
    exact ih _

/-- **What layers come to at a path is made by their entries, one by one.** -/
theorem value?_merge (names : List String) (layers : List Layer) :
    (merge layers).value? names =
      layers.foldl (fun old layer => layer.revise names old) ((Setting.table []).value? names) := by
  unfold merge
  generalize Setting.table [] = below
  induction layers generalizing below with
  | nil => rfl
  | cons layer rest ih => rw [List.foldl_cons, List.foldl_cons, ih, value?_onto]

/-- What a layer says of a path: of entries that say something, the last is heard. -/
def given? (names : List String) (layer : Layer) : Option Setting :=
  layer.reverse.findSome? fun entry => Setting.given? names (Setting.path entry.1) entry.2

/-- What the last layer that says anything of a path says of it. -/
def lastGiven? (names : List String) (layers : List Layer) : Option Setting :=
  layers.reverse.findSome? (given? names)

/-- Nothing but tables is put on the way to a path. -/
def Passes (names : List String) (layer : Layer) : Prop :=
  ∀ entry ∈ layer, Setting.Passes names (Setting.path entry.1) entry.2

/-- No entry leads to a place in a list that is at the end of a path. -/
def Whole (names : List String) (layer : Layer) : Prop :=
  ∀ entry ∈ layer, Setting.leadsInto names (Setting.path entry.1) = false

instance (names : List String) (layer : Layer) : Decidable (layer.Whole names) :=
  inferInstanceAs (Decidable (∀ entry ∈ layer, _ = _))

theorem revise_eq_or_mixed {names : List String} {layer : Layer} (passes : layer.Passes names)
    (old : Option Setting) :
    layer.revise names old = (layer.given? names).or old ∨
      ∃ s, layer.revise names old = some s ∧ Setting.Mixed (¬layer.Whole names) s := by
  refine Setting.foldl_eq_last_or (p := fun t => ∃ s, t = some s ∧ Setting.Mixed _ s)
    (fun entry mem old => ?_) old
  refine (Setting.revise_eq_or_mixed (passes entry mem) old).imp_right ?_
  rintro ⟨s, isS, mixed⟩
  refine ⟨s, isS, mixed.imp fun placed whole => ?_⟩
  rw [whole entry mem] at placed
  cases placed

/-- **The last layer that says anything of a path is heard,** unless a table or a list is put
together there. -/
theorem value?_merge_eq_last_or_mixed {names : List String} {layers : List Layer}
    (nonempty : names ≠ []) (passes : ∀ layer ∈ layers, layer.Passes names) :
    (merge layers).value? names = lastGiven? names layers ∨
      ∃ s, (merge layers).value? names = some s ∧
        Setting.Mixed (¬∀ layer ∈ layers, layer.Whole names) s := by
  have nothing : (Setting.table []).value? names = none := by
    cases names with
    | nil => exact absurd rfl nonempty
    | cons name rest => rfl
  rw [value?_merge, nothing, ← (lastGiven? names layers).or_none]
  refine Setting.foldl_eq_last_or (p := fun t => ∃ s, t = some s ∧ Setting.Mixed _ s)
    (fun layer mem old => ?_) none
  refine (revise_eq_or_mixed (passes layer mem) old).imp_right ?_
  rintro ⟨s, isS, mixed⟩
  exact ⟨s, isS, mixed.imp fun cut whole => cut (whole layer mem)⟩

end Layer
end Rulebook
