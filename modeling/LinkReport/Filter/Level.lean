import LinkReport.Decimal.Numeral

/-!
# Log levels

A level is a threshold: an event passes if its own level is not more verbose. `off` is
below all events.
-/

namespace LinkReport

/-- A log level, from the least verbose on. -/
inductive Level where
  | off
  | error
  | warn
  | info
  | debug
  | trace
deriving DecidableEq, Repr, Inhabited

namespace Level

/-- All levels, from the least verbose on. -/
def all : List Level := [.off, .error, .warn, .info, .debug, .trace]

/-- How much the level lets through. -/
def verbosity : Level → Nat
  | .off => 0
  | .error => 1
  | .warn => 2
  | .info => 3
  | .debug => 4
  | .trace => 5

/-- The name of the level in lower case. -/
def name : Level → String
  | .off => "off"
  | .error => "error"
  | .warn => "warn"
  | .info => "info"
  | .debug => "debug"
  | .trace => "trace"

/-- The name of the level as it heads a log line, right-aligned in five characters. -/
def label : Level → String
  | .off => "  OFF"
  | .error => "ERROR"
  | .warn => " WARN"
  | .info => " INFO"
  | .debug => "DEBUG"
  | .trace => "TRACE"

/-- The level that a text names, by its name in any case or by its verbosity. -/
def ofText? (cs : List Char) : Option Level :=
  match Decimal.natural? cs with
  | some n => all.find? (·.verbosity == n)
  | none => all.find? fun level => Decimal.isWord level.name cs

end Level
end LinkReport
