import LinkReport.Filter.Basic
import LinkReport.Verdict

/-!
# Events and log records

What the program does is told in events. A filter decides which of them are recorded: of
its static directives the most specific one that speaks of the event says up to which
level events pass. A record is one line of text, unless what it tells holds line ends.
-/

namespace LinkReport

/-- Something that happened. -/
inductive Event where
  /-- The answers of the library were put together. -/
  | reportAssembled (report : Report)
  /-- The self-test is over. -/
  | selfTestFinished (passed : Bool)
  /-- Two strings that were compared differ. -/
  | stringMismatch (returned expected : String)
  /-- No configuration could be loaded. -/
  | loadFailed (e : Config.LoadError)
  /-- The configuration is settled. -/
  | configurationLoaded (config : Config)
deriving DecidableEq, Repr

namespace Event

/-- The level of an event. -/
def level : Event → Level
  | .reportAssembled _ | .selfTestFinished _ | .configurationLoaded _ => .debug
  | .stringMismatch .. => .error
  | .loadFailed _ => .warn

/-- The part of the program that an event comes from. -/
def target : Event → String
  | .reportAssembled _ => "cpp_example::example"
  | .selfTestFinished _ | .stringMismatch .. => "cpp_example::selftest"
  | .loadFailed _ | .configurationLoaded _ => "cpp_example"

/-- What an event says. -/
def message : Event → String
  | .reportAssembled _ => "report assembled"
  | .selfTestFinished _ => "self-test finished"
  | .stringMismatch .. => "string mismatch"
  | .loadFailed e => e.message ++ "; using defaults"
  | .configurationLoaded _ => "configuration loaded"

/-- The fields of an event besides its message, with their texts. -/
def fields : Event → List (String × String)
  | .reportAssembled r =>
    [("string", Text.quoted r.string), ("json_c_version", Text.quoted r.jsonVersion)]
  | .selfTestFinished passed => [("passed", if passed then "true" else "false")]
  | .stringMismatch returned expected => [("returned", returned), ("expected", expected)]
  | .loadFailed _ => []
  | .configurationLoaded config => [("config", config.inspected)]

/-- The names of all fields of an event. -/
def fieldNames (e : Event) : List String :=
  "message" :: e.fields.map (·.1)

/-- A character of a message as a record shows it: the controls that a terminal would obey
are written as escapes. -/
def escapeControl (c : Char) : List Char :=
  let n := c.toNat
  if n = 0x07 ∨ n = 0x08 ∨ n = 0x0c then ['\\', 'x', '0'] ++ Text.hexDigits n
  else if n = 0x1b ∨ n = 0x7f then ['\\', 'x'] ++ Text.hexDigits n
  else if 0x80 ≤ n ∧ n ≤ 0x9f then ['\\', 'u', '\x7b'] ++ Text.hexDigits n ++ ['\x7d']
  else [c]

/-- The message as a record shows it. -/
def shownMessage (e : Event) : String :=
  String.ofList (e.message.toList.flatMap escapeControl)

/-- The record of an event, with the line end. -/
def record (e : Event) : String :=
  e.level.label ++ " " ++ e.target ++ ": " ++ e.shownMessage ++
    String.join (e.fields.map fun f => " " ++ f.1 ++ "=" ++ f.2) ++ "\n"

end Event

/-! ## What the operations of the library tell -/

/-- Putting a report together is told. -/
def Report.events (r : Report) : List Event :=
  [.reportAssembled r]

/-- Evaluating two strings is told if they differ. -/
def Verdict.evaluationEvents (returned expected : String) : List Event :=
  if returned = expected then [] else [.stringMismatch returned expected]

/-- A self-test tells its evaluation and its end. -/
def Verdict.selfTestEvents : List Event :=
  evaluationEvents magicString magicString ++ [.selfTestFinished ofSelfTest.passed]

/-! ## What a filter lets through -/

namespace Filter

/-- The directive speaks of the event: the event comes from its target or from below it,
and has the field that it names. -/
def Directive.speaksOf (d : Directive) (e : Event) : Bool :=
  (d.target.all fun target => target.toList.isPrefixOf e.target.toList) &&
    d.field.all fun field => e.fieldNames.contains field.name

/-- The event passes the filter. -/
def admits (f : Filter) (e : Event) : Bool :=
  match f.static.find? (·.speaksOf e) with
  | some d => e.level.verbosity ≤ d.level.verbosity
  | none => false

/-- The records of the events that pass the filter, in order. -/
def log (f : Filter) (events : List Event) : String :=
  String.join ((events.filter f.admits).map Event.record)

end Filter
end LinkReport
