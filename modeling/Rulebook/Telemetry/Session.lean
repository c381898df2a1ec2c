import Rulebook.Settings.Basic
import Rulebook.Telemetry.Filter

/-!
Telemetry from its setting up to its tearing down.

Logging is set up first, and only once in a run of the program; then the metrics are served, if they
are wanted, for which their port has to be free.

* `Session.setUp`: whether setting up works out, and what is said about it.
* `Session.lines`: the lines that are written for events.
-/

namespace Rulebook

/-- What telemetry goes by. -/
structure Session where
  service : String
  settings : TelemetrySettings
  /-- The filter of log lines that is tried before the level of the settings. -/
  filterOverride : Option String := none
  deriving DecidableEq, Repr, Inhabited

/-- Why telemetry cannot be set up. -/
inductive SetUpFault where
  /-- It has been set up before. -/
  | alreadySetUp
  /-- The port of the metrics is taken. -/
  | portTaken
  deriving DecidableEq, Repr

namespace Session

/-- Sets telemetry up: what is said on the way, and the fault that stops it, if there is one. -/
def setUp (s : Session) (before portTaken : Bool) : List Event × Option SetUpFault :=
  let port := s.settings.metricsPort.toNat
  let opening := Event.initialized s.service s.settings.metricsEnabled port
  if before then ([], some .alreadySetUp)
  else if !s.settings.metricsEnabled then ([opening], none)
  else if portTaken then ([opening], some .portTaken)
  else ([opening, .listening port], none)

/-- What is said when telemetry that was set up is torn down. -/
def tearDown : List Event := [.shuttingDown]

/-- The filter of log lines. -/
def filter (s : Session) : Filter := .choose s.filterOverride s.settings.logLevel

/-- Whether a line is written for an event. Plain logs do not have the ends of spans. -/
def writes (s : Session) (e : Event) : Bool :=
  s.filter.passes e && (s.settings.jsonLogs || e.span?.isNone)

/-- The lines that are written for events. -/
def lines (s : Session) (events : List Event) : List Line :=
  (events.filter s.writes).map Event.line

/-- Whether the log is coloured: plain lines are. -/
def coloured (s : Session) (events : List Event) : Bool :=
  !s.settings.jsonLogs && events.any s.writes

end Session
end Rulebook
