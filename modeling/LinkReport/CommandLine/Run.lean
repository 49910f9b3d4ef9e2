import LinkReport.CommandLine.Message
import LinkReport.Startup

/-!
# Runs of the programs

A run answers its arguments, or starts up and does the program's work. The work is shown
on standard output, and the log goes to standard error.
-/

namespace LinkReport.CommandLine

/-- What a run leaves behind. -/
structure Output where
  code : Nat
  stdout : String
  stderr : String
deriving DecidableEq, Repr

/-- What a run leaves behind that breaks off in the reading of a filter. -/
def Output.ofCrash (crash : Filter.Crash) : Output where
  code := 101
  stdout := ""
  stderr := crash.message ++ "\n"

/-- What a program shows, its exit code, and what its work tells. -/
structure Work where
  code : Nat
  shown : String
  events : List Event

/-- The work of a program with the flags that are given, after a startup with `config`. -/
def Program.work (p : Program) (given : List Flag) (config : Config) : Work :=
  match p with
  | .demo =>
    if given.contains .showConfig then { code := 0, shown := config.printed, events := [] }
    else
      let report := Report.current
      let shown :=
        if given.contains .json then report.toLine ++ "\n"
        else String.join (report.lines.map (· ++ "\n"))
      { code := 0, shown, events := report.events }
  | .selfTest =>
    let verdict := Verdict.ofSelfTest
    { code := verdict.exitCode, shown := verdict.shown ++ "\n",
      events := Verdict.selfTestEvents }

/-- Runs a program in some surroundings. Arguments are answered before the surroundings are
looked at. -/
def Program.run (p : Program) (arguments : List String) (s : Surroundings) :
    Except Filter.Crash Output :=
  match p.read arguments with
  | .help => .ok { code := 0, stdout := p.helpText, stderr := "" }
  | .version => .ok { code := 0, stdout := p.versionText, stderr := "" }
  | .refused fault => .ok { code := 2, stdout := "", stderr := fault.message p }
  | .work given => do
    let startup ← s.start
    let work := p.work given startup.config
    .ok { code := work.code, stdout := work.shown,
          stderr := startup.filter.log (startup.events ++ work.events) }

end LinkReport.CommandLine
