import LinkReport.EnvFile.Bindings
import LinkReport.FileTree
import LinkReport.Text.Quoted

/-!
# Configuration

Two variables configure the logging: a level, and a filter that goes before the level.
Each is taken from the process environment, or else from the environment file of a
directory, and is trimmed. A blank or missing level is `warn`, and a blank or missing
filter is none.
-/

namespace LinkReport

/-- What the logging is configured to. -/
structure Config where
  /-- The level to use where no filter is given. -/
  logLevel : String
  /-- A filter, which goes before the level. -/
  logFilter : Option String
deriving DecidableEq, Repr

namespace Config

/-- The level without configuration. -/
def defaultLogLevel : String := "warn"

/-- The variable that holds the level. -/
def logLevelKey : String := "CPP_EXAMPLE_LOG_LEVEL"

/-- The variable that holds the filter. -/
def logFilterKey : String := "CPP_EXAMPLE_LOG"

/-- The configuration without any variable. -/
def default : Config where
  logLevel := defaultLogLevel
  logFilter := none

/-- A trimmed text; none if it is blank or missing. -/
def nonBlank? (value : Option (List Char)) : Option String :=
  (value.map Text.trim).bind fun cs => if cs = [] then none else some (String.ofList cs)

/-- The configuration that a set of variables makes. -/
def ofVariables (value? : String → Option (List Char)) : Config where
  logLevel := (nonBlank? (value? logLevelKey)).getD defaultLogLevel
  logFilter := nonBlank? (value? logFilterKey)

/-- The variables of an environment over the bindings of a file. -/
def layered (env : Environment) (bindings : List EnvFile.Binding) (key : String) :
    Option (List Char) :=
  (env.text? key).or (EnvFile.lastValue? key.toList bindings)

/-- The configuration that the environment alone makes. -/
def ofEnvironment (env : Environment) : Config :=
  ofVariables env.text?

/-- What is shown for a filter that is not set. -/
def unsetText : String := "(unset)"

/-- The configuration as it is shown to the user. -/
def printed (c : Config) : String :=
  "Configuration:\n" ++
    s!"  {logLevelKey}: {c.logLevel}\n" ++
    s!"  {logFilterKey}: {c.logFilter.getD unsetText}\n"

/-- The configuration as it is shown in a log, on one line. -/
def inspected (c : Config) : String :=
  let filter := match c.logFilter with
    | some filter => "Some(" ++ Text.quoted filter ++ ")"
    | none => "None"
  "Config \x7b log_level: " ++ Text.quoted c.logLevel ++ ", log_filter: " ++ filter ++ " \x7d"

/-- What stands under the name of the environment file in a directory. -/
inductive EnvFileEntry where
  | absent
  | directory
  | file (content : List UInt8)
deriving DecidableEq, Repr

/-- A directory that may hold an environment file. -/
structure Directory where
  path : String
  envFile : EnvFileEntry
deriving DecidableEq, Repr

/-- Why no configuration could be loaded. -/
inductive LoadError where
  /-- The working directory is gone. -/
  | noDirectory
  /-- The environment file at `path` cannot be read. -/
  | badFile (path : String) (cause : EnvFile.Error)
deriving DecidableEq, Repr

namespace LoadError

/-- What could not be done. -/
def context : LoadError → String
  | .noDirectory => "Failed to read current directory"
  | .badFile path _ => s!"Failed to parse {path}"

/-- What stood in the way, from the nearest cause to the farthest. A line that is not
UTF-8 is a fault of the file and of the reading of it. -/
def causes : LoadError → List String
  | .noDirectory => ["No such file or directory (os error 2)"]
  | .badFile _ .notUtf8 => [EnvFile.Error.notUtf8.message, EnvFile.Error.notUtf8.message]
  | .badFile _ cause => [cause.message]

/-- What could not be done, and then what stood in the way. -/
def chain (e : LoadError) : List String :=
  e.context :: e.causes

/-- What could not be done and why. -/
def message (e : LoadError) : String :=
  ": ".intercalate e.chain

end LoadError

/-- The path of the environment file in a directory. -/
def Directory.envFilePath (dir : Directory) : String :=
  FileTree.join dir.path ".env"

/-- The bindings of the environment file in a directory; none if there is no such file. -/
def Directory.bindings (dir : Directory) (env : Environment) :
    Except LoadError (List EnvFile.Binding) :=
  match dir.envFile with
  | .file content =>
    (EnvFile.bindings env content).mapError (LoadError.badFile dir.envFilePath)
  | .absent | .directory => .ok []

/-- The configuration that the environment makes over the environment file of a
directory. -/
def load (env : Environment) (dir : Directory) : Except LoadError Config :=
  (dir.bindings env).map fun bindings => ofVariables (layered env bindings)

end Config
end LinkReport
