import Rulebook.Proofs.Settings.Layer
import Rulebook.Settings.Basic

/-!
The keys that settings are read from.

Settings are read from a table with two sections. What they are is told key by key: each field is
the value at the path of its key, read as what the field is, or has its default.

* `Settings.Key`: the keys, each with its path, its reading and its field.
* `Settings.Key.read?`: the value of a key, read from what is given for it.
* `Settings.ofSetting?_eq_some_iff`: settings are what all their keys are read as.
-/

namespace Rulebook

/-- Whether a value is a table. -/
def Setting.isTable : Setting → Bool
  | table _ => true
  | _ => false

namespace Settings

/-- The keys of settings. -/
inductive Key where
  | serviceName
  | environment
  | host
  | port
  | corsOrigins
  | logLevel
  | jsonLogs
  | metricsEnabled
  | metricsPort
  deriving DecidableEq, Repr

namespace Key

/-- What the value of a key is. -/
def Value : Key → Type
  | serviceName | environment | host | logLevel => String
  | port | metricsPort => UInt16
  | corsOrigins => List String
  | jsonLogs | metricsEnabled => Bool

/-- Where the value of a key stands. -/
def path : Key → List String
  | serviceName => ["service_name"]
  | environment => ["environment"]
  | host => ["server", "host"]
  | port => ["server", "port"]
  | corsOrigins => ["server", "cors_origins"]
  | logLevel => ["observability", "log_level"]
  | jsonLogs => ["observability", "json_logs"]
  | metricsEnabled => ["observability", "metrics_enabled"]
  | metricsPort => ["observability", "metrics_port"]

/-- How the value of a key is read. -/
def reading : (key : Key) → Setting → Option key.Value
  | serviceName | environment | host | logLevel => Setting.text?
  | port | metricsPort => Setting.port?
  | corsOrigins => Setting.texts?
  | jsonLogs | metricsEnabled => Setting.flag?

/-- The field of settings that holds the value of a key. -/
def field : (key : Key) → Settings → key.Value
  | serviceName => Settings.serviceName
  | environment => Settings.environment
  | host => fun s => s.server.host
  | port => fun s => s.server.port
  | corsOrigins => fun s => s.server.corsOrigins
  | logLevel => fun s => s.telemetry.logLevel
  | jsonLogs => fun s => s.telemetry.jsonLogs
  | metricsEnabled => fun s => s.telemetry.metricsEnabled
  | metricsPort => fun s => s.telemetry.metricsPort

/-- The value of a key, read from what is given for it. Where nothing is given, it is built in. -/
def read? (key : Key) (given : Option Setting) : Option key.Value :=
  given.elim (some (key.field {})) key.reading

/-- No key is read from a table. -/
theorem reading_table (key : Key) (entries : List (String × Setting)) :
    key.reading (.table entries) = none := by
  cases key <;> rfl

/-- No key but the origins is read from a list. -/
theorem reading_list {key : Key} (noOrigins : key ≠ corsOrigins) (items : List Setting) :
    key.reading (.list items) = none := by
  cases key with
  | corsOrigins => exact absurd rfl noOrigins
  | _ => rfl

end Key

/-- The sections of settings. -/
def sections : List String := ["server", "observability"]

/-- A section that is there is a table. -/
def Sectioned (s : Setting) : Prop :=
  ∀ name ∈ sections, ∀ value, s.value? [name] = some value → value.isTable = true

/-! ### Sections by their keys -/

theorem read?_eq_elim {α : Type} (entries : List (String × Setting)) (name : String)
    (reading : Setting → Option α) (default : α) :
    Setting.read? entries name reading default =
      (entries.lookup name).elim (some default) reading := by
  unfold Setting.read?
  cases entries.lookup name <;> rfl

theorem value?_singleton (s : Setting) (name : String) :
    s.value? [name] = s.entries.lookup name := by
  cases found : s.entries.lookup name <;> simp [Setting.value?, found]

/-- A section is none, or the table of what is found in it. -/
theorem Sectioned.cases {s : Setting} (sectioned : Sectioned s) {name : String}
    (isSection : name ∈ sections) :
    s.entries.lookup name = none ∨ ∃ entries, s.entries.lookup name = some (.table entries) := by
  have isTable := sectioned name isSection
  rw [value?_singleton] at isTable
  cases found : s.entries.lookup name with
  | none => exact .inl rfl
  | some value =>
    have := isTable value found
    cases value with
    | table entries => exact .inr ⟨entries, rfl⟩
    | _ => cases this

/-- What stands in a section. -/
theorem value?_of_lookup_eq_some {s : Setting} {name : String} {entries : List (String × Setting)}
    (found : s.entries.lookup name = some (.table entries)) (inside : String) :
    s.value? [name, inside] = entries.lookup inside := by
  change (s.entries.lookup name).bind (Setting.value? [inside]) = entries.lookup inside
  rw [found, Option.bind_some, value?_singleton]
  rfl

theorem value?_of_lookup_eq_none {s : Setting} {name : String}
    (absent : s.entries.lookup name = none) (inside : String) : s.value? [name, inside] = none := by
  change (s.entries.lookup name).bind (Setting.value? [inside]) = none
  rw [absent, Option.bind_none]

section

variable {s : Setting} (sectioned : Sectioned s)
include sectioned

theorem server_eq_some_iff {server : ServerSettings} :
    Setting.read? s.entries "server" ServerSettings.ofSetting? {} = some server ↔
      (s.value? Key.host.path).elim (some ({} : ServerSettings).host) Setting.text? =
        some server.host ∧
      (s.value? Key.port.path).elim (some ({} : ServerSettings).port) Setting.port? =
        some server.port ∧
      (s.value? Key.corsOrigins.path).elim (some ({} : ServerSettings).corsOrigins) Setting.texts? =
        some server.corsOrigins := by
  obtain ⟨host, port, corsOrigins⟩ := server
  rw [read?_eq_elim]
  rcases sectioned.cases (show "server" ∈ sections by decide) with absent | ⟨entries, found⟩
  · simp [Key.path, value?_of_lookup_eq_none absent, absent]
  · simp [Key.path, value?_of_lookup_eq_some found, found, ServerSettings.ofSetting?,
      Setting.section?, read?_eq_elim, Option.bind_eq_some_iff]

theorem telemetry_eq_some_iff {telemetry : TelemetrySettings} :
    Setting.read? s.entries "observability" TelemetrySettings.ofSetting? {} = some telemetry ↔
      (s.value? Key.logLevel.path).elim (some ({} : TelemetrySettings).logLevel) Setting.text? =
        some telemetry.logLevel ∧
      (s.value? Key.jsonLogs.path).elim (some ({} : TelemetrySettings).jsonLogs) Setting.flag? =
        some telemetry.jsonLogs ∧
      (s.value? Key.metricsEnabled.path).elim (some ({} : TelemetrySettings).metricsEnabled)
        Setting.flag? = some telemetry.metricsEnabled ∧
      (s.value? Key.metricsPort.path).elim (some ({} : TelemetrySettings).metricsPort)
        Setting.port? = some telemetry.metricsPort := by
  obtain ⟨logLevel, jsonLogs, metricsEnabled, metricsPort⟩ := telemetry
  rw [read?_eq_elim]
  rcases sectioned.cases (show "observability" ∈ sections by decide) with absent | ⟨entries, found⟩
  · simp [Key.path, value?_of_lookup_eq_none absent, absent]
  · simp [Key.path, value?_of_lookup_eq_some found, found, TelemetrySettings.ofSetting?,
      Setting.section?, read?_eq_elim, Option.bind_eq_some_iff, -Bool.exists_bool]

/-- **Settings are what all their keys are read as.** -/
theorem ofSetting?_eq_some_iff {settings : Settings} :
    ofSetting? s = some settings ↔
      ∀ key : Key, key.read? (s.value? key.path) = some (key.field settings) := by
  obtain ⟨serviceName, environment, server, telemetry⟩ := settings
  have parts : ofSetting? s = some ⟨serviceName, environment, server, telemetry⟩ ↔
      (s.value? Key.serviceName.path).elim (some ({} : Settings).serviceName) Setting.text? =
        some serviceName ∧
      (s.value? Key.environment.path).elim (some ({} : Settings).environment) Setting.text? =
        some environment ∧
      Setting.read? s.entries "server" ServerSettings.ofSetting? {} = some server ∧
      Setting.read? s.entries "observability" TelemetrySettings.ofSetting? {} = some telemetry := by
    simp [Key.path, ofSetting?, value?_singleton, read?_eq_elim, Option.bind_eq_some_iff]
  rw [parts, server_eq_some_iff sectioned, telemetry_eq_some_iff sectioned]
  constructor
  · rintro ⟨serviceName, environment, ⟨host, port, origins⟩, logLevel, jsonLogs, enabled, metrics⟩
    rintro (_ | _ | _ | _ | _ | _ | _ | _ | _) <;> assumption
  · intro all
    exact ⟨all .serviceName, all .environment, ⟨all .host, all .port, all .corsOrigins⟩,
      all .logLevel, all .jsonLogs, all .metricsEnabled, all .metricsPort⟩

end

end Settings
end Rulebook
