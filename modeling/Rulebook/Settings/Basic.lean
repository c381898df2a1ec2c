import Rulebook.Settings.Layer

/-!
The settings of the service.

* `Settings.ofSetting?`: the settings that a table gives; what it does not give is the default.
* `Settings.address`, `Settings.isProduction`: what follows from them.
-/

namespace Rulebook

/-- Where the service listens. -/
structure ServerSettings where
  host : String := "0.0.0.0"
  port : UInt16 := 3000
  /-- The origins that may ask from elsewhere. -/
  corsOrigins : List String := ["http://localhost:3001"]
  deriving DecidableEq, Repr, Inhabited

/-- What the service says about its work. -/
structure TelemetrySettings where
  logLevel : String := "info"
  /-- Log lines are JSON, not plain. -/
  jsonLogs : Bool := false
  metricsEnabled : Bool := true
  metricsPort : UInt16 := 9090
  deriving DecidableEq, Repr, Inhabited

/-- The settings of the service. -/
structure Settings where
  serviceName : String := ""
  environment : String := ""
  server : ServerSettings := {}
  telemetry : TelemetrySettings := {}
  deriving DecidableEq, Repr, Inhabited

/-- What a section gives its names: a table by name, a list by position. -/
def Setting.section? (names : List String) : Setting → Option (List (String × Setting))
  | table entries => some entries
  | list items => some (names.zip items)
  | _ => none

/-- A reading of the value of a name, which has a default where there is no value. -/
def Setting.read? {α : Type} (entries : List (String × Setting)) (name : String)
    (reading : Setting → Option α) (default : α) : Option α :=
  match entries.lookup name with
  | some value => reading value
  | none => some default

/-- The settings of the server that a section gives. -/
def ServerSettings.ofSetting? (s : Setting) : Option ServerSettings := do
  let default : ServerSettings := {}
  let entries ← s.section? ["host", "port", "cors_origins"]
  some {
    host := ← Setting.read? entries "host" Setting.text? default.host
    port := ← Setting.read? entries "port" Setting.port? default.port
    corsOrigins := ← Setting.read? entries "cors_origins" Setting.texts? default.corsOrigins }

/-- The settings of the telemetry that a section gives. -/
def TelemetrySettings.ofSetting? (s : Setting) : Option TelemetrySettings := do
  let default : TelemetrySettings := {}
  let entries ← s.section? ["log_level", "json_logs", "metrics_enabled", "metrics_port"]
  some {
    logLevel := ← Setting.read? entries "log_level" Setting.text? default.logLevel
    jsonLogs := ← Setting.read? entries "json_logs" Setting.flag? default.jsonLogs
    metricsEnabled := ← Setting.read? entries "metrics_enabled" Setting.flag? default.metricsEnabled
    metricsPort := ← Setting.read? entries "metrics_port" Setting.port? default.metricsPort }

namespace Settings

/-- The settings that a table gives. -/
def ofSetting? (s : Setting) : Option Settings := do
  let default : Settings := {}
  let entries := s.entries
  some {
    serviceName := ← Setting.read? entries "service_name" Setting.text? default.serviceName
    environment := ← Setting.read? entries "environment" Setting.text? default.environment
    server := ← Setting.read? entries "server" ServerSettings.ofSetting? default.server
    telemetry := ← Setting.read? entries "observability" TelemetrySettings.ofSetting?
      default.telemetry }

/-- Host and port. -/
def address (s : Settings) : String := s.server.host ++ ":" ++ toString s.server.port.toNat

/-- Whether the service is in earnest. -/
def isProduction (s : Settings) : Bool := s.environment = "production"

end Settings
end Rulebook
