import LinkReport.Event

/-!
# Startup

At its start a program settles its configuration and the filter of its log. If nothing can
be loaded from the working directory, the environment alone makes the configuration, and a
warning goes before the event that every startup ends with.
-/

namespace LinkReport

/-- Where a program starts: in a working directory, unless that is gone, and with an
environment. -/
structure Surroundings where
  environment : Environment
  directory : Option Config.Directory

namespace Surroundings

/-- The configuration that can be loaded. -/
def load (s : Surroundings) : Except Config.LoadError Config :=
  match s.directory with
  | some dir => Config.load s.environment dir
  | none => .error .noDirectory

/-- The configuration that a program starts with. -/
def config (s : Surroundings) : Config :=
  match s.load with
  | .ok config => config
  | .error _ => Config.ofEnvironment s.environment

/-- What a startup tells. -/
def startupEvents (s : Surroundings) : List Event :=
  match s.load with
  | .ok config => [.configurationLoaded config]
  | .error e => [.loadFailed e, .configurationLoaded (Config.ofEnvironment s.environment)]

end Surroundings

/-- The outcome of a startup. -/
structure Startup where
  config : Config
  /-- The filter of the program's own log. -/
  filter : Filter
  events : List Event
deriving DecidableEq, Repr

/-- Starts a program. Only the choice of the filter can break off. -/
def Surroundings.start (s : Surroundings) : Except Filter.Crash Startup := do
  let filter ← Filter.ofConfig s.config
  .ok { config := s.config, filter, events := s.startupEvents }

end LinkReport
