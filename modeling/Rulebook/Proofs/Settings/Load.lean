import Rulebook.Proofs.Settings.Key
import Rulebook.Settings.Load

/-!
Which source a setting comes from.

Each key is read from the last source that gives it a value, whatever the sources say of other
keys: a source with one entry of a section leaves the rest of the section to the sources below. The
variable for the port of a service has the last word on the port and on nothing else, unless it is
at the same time one of the variables that settings are read from.

* `Layer.Sectioned`: a layer that gives sections as tables.
* `Layer.sectioned_merge`: such layers come to tables as sections.
* `Settings.Key.read?_merge`: each key is read from the last layer that gives it.
* `Settings.PortVariableApart`: the port variable is none that settings are read from.
* `Settings.ofSetting?_withoutPortVariable`: then it takes no part in the layers.
* `Settings.load?_reads_last_source`: where settings come from, and what the port variable does.
* `Settings.last_source_not_read`: where this ends.
-/

namespace Rulebook

open Settings (Key)

namespace Layer

/-- Sections are given as tables: no entry gives another value for the whole of a section, or leads
to a place in it. -/
def Sectioned (layer : Layer) : Prop :=
  ∀ entry ∈ layer, ∀ name ∈ Settings.sections,
    Setting.leadsInto [name] (Setting.path entry.1) = false ∧
    (Setting.path entry.1 = [.name name] → entry.2.isTable = true)

instance (layer : Layer) : Decidable layer.Sectioned :=
  inferInstanceAs (Decidable (∀ entry ∈ layer, ∀ name ∈ Settings.sections, _ ∧ (_ → _)))

theorem Sectioned.mono {layer layer' : Layer} (sectioned : layer.Sectioned)
    (sub : ∀ entry ∈ layer', entry ∈ layer) : layer'.Sectioned :=
  fun entry mem => sectioned entry (sub entry mem)

theorem passes_singleton (layer : Layer) (name : String) : layer.Passes [name] := by
  intro entry mem
  obtain ⟨top, rest, isPath⟩ := Setting.path_eq_cons entry.1
  rw [isPath]
  exact fun _ => trivial

namespace Sectioned

variable {layer : Layer} (sectioned : layer.Sectioned)
include sectioned

theorem passes_section {name : String} (isSection : name ∈ Settings.sections) (inside : String) :
    layer.Passes [name, inside] := by
  intro entry mem
  obtain ⟨top, rest, isPath⟩ := Setting.path_eq_cons entry.1
  obtain ⟨noPlace, isTable⟩ := sectioned entry mem name isSection
  rw [isPath] at noPlace isTable ⊢
  rintro rfl
  match rest with
  | .name next :: rest => exact fun _ => trivial
  | .item place :: rest => simp [Setting.leadsInto] at noPlace
  | [] =>
    have isTable := isTable rfl
    cases value : entry.2 with
    | table entries => exact fun _ _ _ => trivial
    | _ =>
      rw [value] at isTable
      cases isTable

/-- Nothing is in the way of a key. -/
theorem passes (key : Key) : layer.Passes key.path := by
  cases key with
  | serviceName => exact passes_singleton layer _
  | environment => exact passes_singleton layer _
  | host | port | corsOrigins => exact sectioned.passes_section (by decide) _
  | logLevel | jsonLogs | metricsEnabled | metricsPort =>
    exact sectioned.passes_section (by decide) _

theorem whole {name : String} (isSection : name ∈ Settings.sections) : layer.Whole [name] :=
  fun entry mem => (sectioned entry mem name isSection).1

theorem isTable_of_given? {name : String} (isSection : name ∈ Settings.sections) {value : Setting}
    (given : layer.given? [name] = some value) : value.isTable = true := by
  obtain ⟨entry, mem, gives⟩ := List.exists_of_findSome?_eq_some given
  obtain ⟨top, rest, isPath⟩ := Setting.path_eq_cons entry.1
  have isTable := (sectioned entry (List.mem_reverse.mp mem) name isSection).2
  rw [isPath] at isTable gives
  by_cases same : top = name
  · subst same
    rw [Setting.given?, if_pos rfl] at gives
    cases rest with
    | nil =>
      cases gives
      exact isTable rfl
    | cons next rest => cases gives
  · rw [Setting.given?, if_neg same] at gives
    cases gives

end Sectioned

/-- Layers that give sections as tables come to tables as sections. -/
theorem sectioned_merge {layers : List Layer} (sectioned : ∀ layer ∈ layers, layer.Sectioned) :
    Settings.Sectioned (merge layers) := by
  intro name isSection value found
  rcases value?_merge_eq_last_or_mixed (List.cons_ne_nil name [])
    (fun layer (_ : layer ∈ layers) => layer.passes_singleton name) with last | ⟨s, isS, mixed⟩
  · rw [last] at found
    obtain ⟨layer, mem, given⟩ := List.exists_of_findSome?_eq_some found
    exact (sectioned layer (List.mem_reverse.mp mem)).isTable_of_given? isSection given
  · cases found.symm.trans isS
    cases mixed with
    | table => rfl
    | list cut => exact absurd (fun layer mem => (sectioned layer mem).whole isSection) cut

/-! ### Entries that do not matter -/

theorem merge_append_singleton (layers : List Layer) (layer : Layer) :
    merge (layers ++ [layer]) = layer.onto (merge layers) := by
  rw [merge, List.foldl_append]
  rfl

/-- A text that is read as a real number gives no table. -/
theorem isTable_of_realOfText? {text : String} {x : Setting}
    (isReal : Setting.realOfText? text = some x) : x.isTable = false := by
  unfold Setting.realOfText? at isReal
  cases sign : Decimal.takeSign text.toList with
  | mk negative digits =>
    simp only [sign] at isReal
    split at isReal
    · cases isReal
      rfl
    · cases isReal
      rfl
    · cases isReal
      rfl
    · obtain ⟨d, -, rfl⟩ := Option.map_eq_some_iff.mp isReal
      rfl

/-- What variables say is no table. -/
theorem isTable_ofVariable (name value : String) :
    (Setting.ofVariable name value).isTable = false := by
  unfold Setting.ofVariable
  split
  · next b isFlag =>
    unfold Setting.flagOfText? at isFlag
    split at isFlag <;> cases isFlag <;> rfl
  · next n _ isInteger =>
    unfold Setting.integerOfText? at isInteger
    split at isInteger
    · split at isInteger <;> cases isInteger
      rfl
    · cases isInteger
  · next x _ _ isReal => exact isTable_of_realOfText? isReal
  · split <;> rfl

/-- A variable that changes nothing at a path can be left out. -/
theorem revise_ofVariables_filter {names : List String} {left : String}
    {vars : List (String × String)}
    (idle : ∀ name, variableName? left = some name → ∀ value, (name, value) ∈ ofVariables vars →
      ∀ old, Setting.revise names (Setting.path name) value old = old) (old : Option Setting) :
    (ofVariables (vars.filter (·.1 ≠ left))).revise names old =
      (ofVariables vars).revise names old := by
  induction vars generalizing old with
  | nil => rfl
  | cons entry rest ih =>
    obtain ⟨key, value⟩ := entry
    have more : ofVariables rest ⊆ ofVariables ((key, value) :: rest) :=
      ((List.sublist_cons_self _ _).filterMap _).subset
    have behind := ih fun name isName value mem => idle name isName value (more mem)
    by_cases isLeft : key = left
    · subst isLeft
      rw [List.filter_cons_of_neg (by simp), behind]
      cases isName : variableName? key with
      | none => simp [ofVariables, isName]
      | some name =>
        have here := idle name isName (.ofVariable name value) (by simp [ofVariables, isName]) old
        simp [ofVariables, isName, revise, here]
    · rw [List.filter_cons_of_pos (by simpa using isLeft)]
      cases isName : variableName? key with
      | none => simpa [ofVariables, isName] using behind old
      | some name => simpa [ofVariables, isName, revise] using behind _

end Layer

namespace Settings

/-! ### Keys -/

namespace Key

theorem path_ne_nil (key : Key) : key.path ≠ [] := by
  cases key <;> exact List.cons_ne_nil _ _

/-- **Each key is read from the last layer that gives it,** whatever layers say of other keys. -/
theorem read?_merge {layers : List Layer} (sectioned : ∀ layer ∈ layers, layer.Sectioned)
    {key : Key} (whole : key = corsOrigins → ∀ layer ∈ layers, layer.Whole key.path) {x : key.Value}
    (read : key.read? ((Layer.merge layers).value? key.path) = some x) :
    key.read? (Layer.lastGiven? key.path layers) = some x := by
  rcases Layer.value?_merge_eq_last_or_mixed key.path_ne_nil
    fun layer mem => (sectioned layer mem).passes key with last | ⟨s, isS, mixed⟩
  · rwa [last] at read
  · rw [isS] at read
    cases mixed with
    | table =>
      cases (key.reading_table _).symm.trans read
    | list cut =>
      have noOrigins : key ≠ corsOrigins := fun origins => cut (whole origins)
      cases (reading_list noOrigins _).symm.trans read

end Key

/-- Settings are the same where all keys are given the same. -/
theorem ofSetting?_congr {s s' : Setting} (sectioned : Sectioned s) (sectioned' : Sectioned s')
    (same : ∀ key : Key, s.value? key.path = s'.value? key.path) :
    ofSetting? s = ofSetting? s' := by
  refine Option.ext fun settings => ?_
  rw [ofSetting?_eq_some_iff sectioned, ofSetting?_eq_some_iff sectioned']
  exact forall_congr' fun key => by rw [same]

/-! ### The variable for the port -/

/-- The variables without the one for the port of a service. -/
def withoutPortVariable (service : String) (vars : List (String × String)) :
    List (String × String) :=
  vars.filter (·.1 ≠ portVariable service)

/-- The variable for the port of a service is none of those that settings are read from: its name
leads to no key, and not past one either. -/
def PortVariableApart (service : String) : Prop :=
  ∀ name, Layer.variableName? (portVariable service) = some name → ∀ key : Key,
    ¬key.path.map Setting.Step.name <+: Setting.path name

theorem environmentVariable_ne_portVariable (service : String) :
    environmentVariable ≠ portVariable service := by
  intro same
  have last := congrArg (fun s => s.toList.getLast?) same
  simp only [portVariable, String.toList_append, List.getLast?_append] at last
  have behind : "_PORT".toList.getLast? = some 'T' := by decide
  rw [behind, Option.some_or] at last
  exact absurd last (by decide)

theorem lookup_filter_of_ne {name left : String} (differs : name ≠ left)
    (vars : List (String × String)) :
    (vars.filter (·.1 ≠ left)).lookup name = vars.lookup name := by
  induction vars with
  | nil => rfl
  | cons entry rest ih =>
    obtain ⟨key, value⟩ := entry
    by_cases isLeft : key = left
    · subst isLeft
      simp [List.lookup_cons, beq_false_of_ne differs, ← ih]
    · simp [isLeft, List.lookup_cons, ← ih]

theorem lookup_filter_self (left : String) (vars : List (String × String)) :
    (vars.filter (·.1 ≠ left)).lookup left = none := by
  rw [List.lookup_eq_none_iff]
  intro entry mem
  have kept := of_decide_eq_true (List.mem_filter.mp mem).2
  exact bne_iff_ne.mpr (Ne.symm kept)

theorem environmentOf_withoutPortVariable (service : String) (vars : List (String × String)) :
    environmentOf (withoutPortVariable service vars) = environmentOf vars := by
  rw [environmentOf, withoutPortVariable,
    lookup_filter_of_ne (environmentVariable_ne_portVariable service)]
  rfl

theorem portOverride?_withoutPortVariable (service : String) (vars : List (String × String)) :
    portOverride? service (withoutPortVariable service vars) = none := by
  rw [portOverride?, withoutPortVariable, lookup_filter_self]
  rfl

/-- The layers below that of the variables. -/
def lowerLayers (service : String) (files : String → Option Layer) (environment : String) :
    List Layer :=
  [("service_name", .text service), ("environment", .text environment)] ::
    ["default", environment, service].filterMap (layerOfFile? files)

theorem layers_eq (service : String) (files : String → Option Layer)
    (vars : List (String × String)) :
    layers service files vars =
      lowerLayers service files (environmentOf vars) ++ [Layer.ofVariables vars] := rfl

section

variable {service : String} {files : String → Option Layer} {vars : List (String × String)}
  (sectioned : ∀ layer ∈ layers service files vars, layer.Sectioned)
include sectioned

theorem sectioned_withoutPortVariable :
    ∀ layer ∈ layers service files (withoutPortVariable service vars), layer.Sectioned := by
  rw [layers_eq, List.forall_mem_append, List.forall_mem_singleton] at sectioned ⊢
  rw [environmentOf_withoutPortVariable]
  refine ⟨sectioned.1, sectioned.2.mono fun entry mem => ?_⟩
  exact (List.filter_sublist.filterMap _).subset mem

/-- **The port variable takes no part in the layers,** if no key is read from it. -/
theorem ofSetting?_withoutPortVariable (apart : PortVariableApart service) :
    ofSetting? (Layer.merge (layers service files (withoutPortVariable service vars))) =
      ofSetting? (Layer.merge (layers service files vars)) := by
  refine ofSetting?_congr (Layer.sectioned_merge (sectioned_withoutPortVariable sectioned))
    (Layer.sectioned_merge sectioned) fun key => ?_
  have ofVariables : (Layer.ofVariables vars).Sectioned := by
    rw [layers_eq, List.forall_mem_append, List.forall_mem_singleton] at sectioned
    exact sectioned.2
  rw [layers_eq, layers_eq, environmentOf_withoutPortVariable, Layer.merge_append_singleton,
    Layer.merge_append_singleton, Layer.value?_onto, Layer.value?_onto]
  refine Layer.revise_ofVariables_filter (fun name isName value mem => ?_) _
  refine Setting.revise_eq_self (ofVariables.passes key _ mem) ?_ (apart name isName key)
  rintro entries rfl
  obtain ⟨⟨variable', text⟩, -, isEntry⟩ := List.mem_filterMap.mp mem
  obtain ⟨name, -, isEntry⟩ := Option.map_eq_some_iff.mp isEntry
  have noTable := Layer.isTable_ofVariable name text
  rw [(Prod.mk.inj isEntry).2] at noTable
  cases noTable

end

theorem load?_withoutPortVariable (service : String) (files : String → Option Layer)
    (vars : List (String × String)) : load? service files (withoutPortVariable service vars) =
      ofSetting? (Layer.merge (layers service files (withoutPortVariable service vars))) := by
  rw [load?, portOverride?_withoutPortVariable]
  exact Option.map_id'

theorem Key.field_withPort {key : Key} (noPort : key ≠ .port) (s : Settings)
    (port : Option UInt16) : key.field (s.withPort port) = key.field s := by
  cases port with
  | none => rfl
  | some port =>
    cases key with
    | port => exact absurd rfl noPort
    | _ => rfl

/-- **Each setting comes from the last source that gives it.** Let all sources give sections as
tables.

* Where settings are loaded, each is what its key is read as from the last source that gives the
  key, or is built in where none does, whatever the sources give for other keys. The origins are if
  no source sets single places of their list, and the port is if its variable is no port.
* Where the port variable of the service is a port, the port is that.
* If no key is read from the port variable, it does nothing else: without it the same is loaded,
  or nothing as well, except for the port where the variable is one. -/
theorem load?_reads_last_source (service : String) (files : String → Option Layer)
    (vars : List (String × String))
    (sectioned : ∀ layer ∈ layers service files vars, layer.Sectioned) :
    (∀ settings, load? service files vars = some settings → ∀ key : Key,
      (key = .corsOrigins → ∀ layer ∈ layers service files vars, layer.Whole key.path) →
      (key = .port → portOverride? service vars = none) →
      key.read? (Layer.lastGiven? key.path (layers service files vars)) =
        some (key.field settings)) ∧
    (∀ settings, load? service files vars = some settings →
      ∀ port, portOverride? service vars = some port → settings.server.port = port) ∧
    (PortVariableApart service → load? service files vars =
      (load? service files (withoutPortVariable service vars)).map
        (·.withPort (portOverride? service vars))) := by
  refine ⟨fun settings loaded key whole noOverride => ?_, fun settings loaded port override => ?_,
    fun apart => ?_⟩
  · obtain ⟨read, isRead, rfl⟩ := Option.map_eq_some_iff.mp loaded
    have all := (ofSetting?_eq_some_iff (Layer.sectioned_merge sectioned)).mp isRead key
    rw [Key.read?_merge sectioned whole all]
    by_cases isPort : key = .port
    · rw [noOverride isPort]
      rfl
    · rw [Key.field_withPort isPort]
  · obtain ⟨read, -, rfl⟩ := Option.map_eq_some_iff.mp loaded
    rw [override]
    rfl
  · rw [load?_withoutPortVariable, ofSetting?_withoutPortVariable sectioned apart]
    rfl

/-- Files for all services, for those under development, and for the service `rules`. -/
def sampleFiles (name : String) : Option Layer :=
  [("default", [("server", .table [("host", .text "a"), ("port", .integer 1),
      ("cors_origins", .list [.text "http://a", .text "http://b"])])]),
    ("development", [("server", .table [("port", .integer 2)]),
      ("observability", .table [("json_logs", .text "yes"), ("metrics_port", .flag true)])]),
    ("rules", [("observability.log_level", .text "debug"), ("server", .table [])])].lookup name

/-- The service `rules` has its own port, and its host in small letters. -/
def sampleVariables : List (String × String) := [("RULES_PORT", "77"), ("rules_Server__Host", "c")]

/-- What all of it comes to. -/
def sampleSettings : Settings where
  serviceName := "rules"
  environment := "development"
  server := ⟨"c", 77, ["http://a", "http://b"]⟩
  telemetry := ⟨"debug", true, true, 1⟩

/-- Every key comes from another source, and the port variable changes the port of the files. -/
theorem sampleSettings_from_sources :
    (∀ layer ∈ layers "rules" sampleFiles sampleVariables, layer.Sectioned) ∧
    (∀ layer ∈ layers "rules" sampleFiles sampleVariables, layer.Whole Key.corsOrigins.path) ∧
    portOverride? "rules" sampleVariables = some 77 ∧ PortVariableApart "rules" ∧
    load? "rules" sampleFiles sampleVariables = some sampleSettings ∧
    (∀ key : Key, key ≠ .port →
      key.read? (Layer.lastGiven? key.path (layers "rules" sampleFiles sampleVariables)) =
        some (key.field sampleSettings)) ∧
    sampleSettings.server.port = 77 ∧
    load? "rules" sampleFiles [("rules_Server__Host", "c")] =
      some { sampleSettings with server.port := 2 } ∧
    load? "rules" sampleFiles sampleVariables =
      (load? "rules" sampleFiles [("rules_Server__Host", "c")]).map (·.withPort (some 77)) := by
  have sectioned : ∀ layer ∈ layers "rules" sampleFiles sampleVariables, layer.Sectioned := by
    decide +kernel
  have whole : ∀ layer ∈ layers "rules" sampleFiles sampleVariables,
      layer.Whole Key.corsOrigins.path := by
    decide +kernel
  have override : portOverride? "rules" sampleVariables = some 77 := by decide +kernel
  have loaded : load? "rules" sampleFiles sampleVariables = some sampleSettings := by decide +kernel
  have apart : PortVariableApart "rules" := by
    intro name isName key
    have isPort : Layer.variableName? (portVariable "rules") = some "port" := by decide +kernel
    cases isName.symm.trans isPort
    cases key <;> decide +kernel
  obtain ⟨each, port, aside⟩ :=
    load?_reads_last_source "rules" sampleFiles sampleVariables sectioned
  refine ⟨sectioned, whole, override, apart, loaded, fun key noPort => ?_,
    port _ loaded 77 override, by decide +kernel, ?_⟩
  · refine each _ loaded key ?_ fun isPort => absurd isPort noPort
    rintro rfl
    exact whole
  · have others : withoutPortVariable "rules" sampleVariables = [("rules_Server__Host", "c")] := by
      decide +kernel
    rw [aside apart, override, others]

/-- A single file. -/
def onlyFile (name : String) (layer : Layer) (other : String) : Option Layer :=
  if other = name then some layer else none

/-- Where the rule ends.

* The variable for the port of a service can be the variable of a setting, and then is not put
  aside: what is no port makes loading fail.
* A section that is a list gives values to keys that no source gives.
* A place of the list of origins is set within what the sources below give.
* A file without a name is not read. -/
theorem last_source_not_read :
    (¬PortVariableApart "rules-server-" ∧
      portOverride? "rules-server-" [("RULES_SERVER__PORT", "abc")] = none ∧
      load? "rules-server-" (fun _ => none) [("RULES_SERVER__PORT", "abc")] = none ∧
      (load? "rules-server-" (fun _ => none) []).isSome = true) ∧
    (Layer.lastGiven? Key.host.path
        (layers "s" (onlyFile "default" [("server", .list [.text "h", .integer 80])]) []) = none ∧
      (load? "s" (onlyFile "default" [("server", .list [.text "h", .integer 80])]) []).map
        (·.server.host) = some "h") ∧
    ((Layer.lastGiven? Key.corsOrigins.path (layers "s"
        (onlyFile "default" [("server.cors_origins", .list [.text "a", .text "b"])])
        [("RULES_SERVER__CORS_ORIGINS[0]", "c")])).bind Setting.texts? = some ["a", "b"] ∧
      (load? "s" (onlyFile "default" [("server.cors_origins", .list [.text "a", .text "b"])])
        [("RULES_SERVER__CORS_ORIGINS[0]", "c")]).map (·.server.corsOrigins) = some ["c", "b"]) ∧
    (load? "" (onlyFile "" [("server.port", .integer 4200)]) []).map (·.server.port) =
      some 3000 := by
  refine ⟨⟨fun apart => ?_, by decide +kernel⟩, ⟨rfl, by decide +kernel⟩, by decide +kernel,
    by decide +kernel⟩
  have isPort : Layer.variableName? (portVariable "rules-server-") = some "server.port" := by
    decide +kernel
  exact apart _ isPort .port (by decide +kernel)

end Settings
end Rulebook
