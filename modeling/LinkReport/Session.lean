import LinkReport.Startup

/-!
# Sessions

A session asks the library one thing after another. Between the steps only three things
last: the environment, the environment file, and the filter through which the session
records events. A query reads them and changes none of them.
-/

namespace LinkReport.Session

/-- What lasts from step to step. -/
structure State where
  surroundings : Surroundings
  /-- The filter of the session's log; without one nothing is recorded. -/
  filter : Option Filter

/-- A question to the library. -/
inductive Query where
  /-- The answers of this build. -/
  | answers
  | report (r : Report)
  | selfTest
  | evaluate (returned expected : String)
  | verdict (v : Verdict)
  /-- The configuration that variables make. -/
  | configOf (vars : List (String × String))
  | environmentConfig
  | loadedConfig
  /-- The filter for a configuration. -/
  | filterOf (c : Config)
  | line (v : Json.Value)
  | startup

/-- A step of a session. -/
inductive Step where
  | setVariables (vars : List (String × List UInt8))
  | unsetVariable (name : String)
  | replaceEnvFile (entry : Config.EnvFileEntry)
  /-- Records events through the filter for a configuration from now on. -/
  | logWith (c : Config)
  /-- Records events through the filter for the configuration of a startup from now on. -/
  | logLoaded
  | query (q : Query)

/-- What a step answers. -/
inductive Reply where
  | done
  | answers (string version : String) (report : Report)
  | report (r : Report)
  | verdict (v : Verdict)
  /-- A verdict, and whether evaluating its strings gives it. -/
  | checkedVerdict (v : Verdict) (evaluated : Bool)
  | config (c : Config)
  /-- A configuration with the filter for it. -/
  | settings (c : Config) (filter : Filter)
  | filter (f : Filter)
  | loadError (e : Config.LoadError)
  | line (text : String)
  | lineError (e : Json.KeyError)

/-- The last value that `vars` give to `key`. -/
def valueOf? (vars : List (String × String)) (key : String) : Option (List Char) :=
  (vars.reverse.lookup key).map String.toList

/-- The answer to a query and the events on the way. -/
def Query.answer (s : Surroundings) : Query → Except Filter.Crash (Reply × List Event)
  | .answers =>
    .ok (.answers magicString linkedJsonVersion Report.current, Report.current.events)
  | .report r => .ok (.report r, [])
  | .selfTest => .ok (.verdict .ofSelfTest, Verdict.selfTestEvents)
  | .evaluate returned expected =>
    .ok (.verdict (.evaluate returned expected), Verdict.evaluationEvents returned expected)
  | .verdict v =>
    .ok (.checkedVerdict v (v = .evaluate v.returned v.expected),
      Verdict.evaluationEvents v.returned v.expected)
  | .configOf vars => do
    let config := Config.ofVariables (valueOf? vars)
    let filter ← Filter.ofConfig config
    .ok (.settings config filter, [])
  | .environmentConfig => .ok (.config (.ofEnvironment s.environment), [])
  | .loadedConfig =>
    match s.load with
    | .ok config => .ok (.config config, [])
    | .error e => .ok (.loadError e, [])
  | .filterOf c => do .ok (.filter (← Filter.ofConfig c), [])
  | .line v =>
    match v.toLine with
    | .ok text => .ok (.line text, [])
    | .error e => .ok (.lineError e, [])
  | .startup => do
    let startup ← s.start
    .ok (.config startup.config, startup.events)

namespace State

/-- The state with other variables. -/
def withEnvironment (s : State) (env : Environment) : State :=
  { s with surroundings := { s.surroundings with environment := env } }

/-- The state with another environment file, if there is a directory to hold it. -/
def withEnvFile (s : State) (entry : Config.EnvFileEntry) : State :=
  let directory := s.surroundings.directory.map fun dir => { dir with envFile := entry }
  { s with surroundings := { s.surroundings with directory } }

/-- What the session records of events. -/
def log (s : State) (events : List Event) : String :=
  match s.filter with
  | some f => f.log events
  | none => ""

end State

/-- Takes a step: the state after it, its answer and its log. -/
def Step.take (s : State) : Step → Except Filter.Crash (State × Reply × String)
  | .setVariables vars =>
    .ok (s.withEnvironment (s.surroundings.environment.setAll vars), .done, "")
  | .unsetVariable name =>
    .ok (s.withEnvironment (s.surroundings.environment.unset name), .done, "")
  | .replaceEnvFile entry => .ok (s.withEnvFile entry, .done, "")
  | .logWith c => do
    let filter ← Filter.ofConfig c
    .ok ({ s with filter := some filter }, .filter filter, "")
  | .logLoaded => do
    let config := s.surroundings.config
    let filter ← Filter.ofConfig config
    .ok ({ s with filter := some filter }, .config config, "")
  | .query q => do
    let (reply, events) ← q.answer s.surroundings
    .ok (s, reply, s.log events)

/-- The answers and logs of the steps of a session, from a state on. -/
def run (s : State) : List Step → Except Filter.Crash (List (Reply × String))
  | [] => .ok []
  | step :: steps => do
    let (next, reply, log) ← step.take s
    let rest ← run next steps
    .ok ((reply, log) :: rest)

end LinkReport.Session
