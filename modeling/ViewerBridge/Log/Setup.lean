import ViewerBridge.Log.Level
/-!
# Setups of logging

What the settings of a process ask for: a filter of the events, and a format. How a text is read as a
filter is left to the logging library, whose reader is given to the setup.
-/
namespace ViewerBridge.Log

/-- How events are logged, with whatever the logging library takes for a filter. -/
structure Setup (F : Type) where
  filter : F
  /-- Whether each event is an object of JSON. -/
  json : Bool
  deriving Repr

namespace Setup

def target : String := "oidbridge"

/-- The lowest level that a name asks for; names are in lower case, and any other text asks for
information. -/
def lowest (name : Option String) : Level :=
  match name with
  | some "trace" => .trace
  | some "debug" => .debug
  | some "warn" | some "warning" => .warn
  | some "error" => .error
  | _ => .info

/-- The text that is read as the filter. If none is given, it is about the events of the bridge, down
to the level of a name. -/
def filterText (given level : Option String) : String :=
  given.getD (target ++ "=" ++ (lowest level).name)

def ofSettings {F : Type} (read : String → F) (given level format : Option String) : Setup F where
  filter := read (filterText given level)
  json := format == some "json"

end Setup
end ViewerBridge.Log
