import Rulebook.Settings.Basic
import Rulebook.Settings.Source
import Rulebook.Text.Uppercase

/-!
Settings put together from files and variables.

The layers from the bottom: the name and the environment of the service, the file `default`, the
file of the environment, the file of the service, and the variables. A variable of the service's own
has the last word on its port.

* `Settings.layers`: the layers of a service.
* `Settings.load?`: the settings of a service.
-/

namespace Rulebook.Settings

/-- The variable that says which environment the service is in. -/
def environmentVariable : String := "RULES_ENV"

/-- The environment that the service is in. -/
def environmentOf (vars : List (String × String)) : String :=
  (vars.lookup environmentVariable).getD "development"

/-- Whether the last part of a name is empty: its file is called nothing but `.toml`, which says no
kind of file. -/
def isNameless (name : String) : Bool := name.toList.getLast?.all (· = '/')

/-- The layer of the file with a name. A file of no kind is not read; where no file has the name,
the one that has it with `.toml` behind it is read. -/
def layerOfFile? (files : String → Option Layer) (name : String) : Option Layer :=
  match files name with
  | some layer => if isNameless name then none else some layer
  | none => files (name ++ ".toml")

/-- The layers of a service, from the bottom. -/
def layers (service : String) (files : String → Option Layer) (vars : List (String × String)) :
    List Layer :=
  let environment := environmentOf vars
  [("service_name", .text service), ("environment", .text environment)] ::
    (["default", environment, service].filterMap (layerOfFile? files) ++ [Layer.ofVariables vars])

/-- The variable for the port of a service. -/
def portVariable (service : String) : String :=
  let name := (Text.uppercase service).map fun c => if c = '-' then '_' else c
  name ++ "_PORT"

/-- The port that the variable of a service gives it; what is no port is not heeded. -/
def portOverride? (service : String) (vars : List (String × String)) : Option UInt16 :=
  (vars.lookup (portVariable service)).bind portOfText?

/-- The settings with another port, if there is one. -/
def withPort (s : Settings) : Option UInt16 → Settings
  | some port => { s with server := { s.server with port } }
  | none => s

/-- The settings of a service, unless a value is not what it should be. -/
def load? (service : String) (files : String → Option Layer) (vars : List (String × String)) :
    Option Settings :=
  (ofSetting? (Layer.merge (layers service files vars))).map
    (·.withPort (portOverride? service vars))

end Rulebook.Settings
