import LinkReport.Proofs.CommandLine.Outcome
import LinkReport.Proofs.Session
import LinkReport.Proofs.Text.Encoding

/-!
# Programs as sessions

A run settles its filter in the middle of its startup, and a session chooses it in a step of
its own before the startup. Both come to the same log: a program does nothing but put queries
to the library, and shows what they answer.

* `Program.exists_session` the session behind each accepted run
* `Program.run_refines_session` what the programs show of the answers
-/

namespace LinkReport.CommandLine.Program

open Session (Reply Query)

variable {p : Program} {arguments : List String} {given : List Flag} {s : Surroundings}

/-- The queries of a run: the startup, and what the work of the program asks for. -/
def queries (p : Program) (given : List Flag) : List Query :=
  .startup :: match p with
    | .demo => if given.contains .showConfig then [] else [.answers]
    | .selfTest => [.selfTest]

theorem answer_startup {startup : Startup} (hstart : s.start = .ok startup) :
    Query.startup.answer s = .ok (.config startup.config, startup.events) := by
  rw [Query.answer, hstart]
  rfl

/-- The queries tell what the run tells. -/
theorem exists_told (p : Program) (given : List Flag) {startup : Startup}
    (hstart : s.start = .ok startup) :
    ∃ told, Session.Tells s (p.queries given)
        ((.config startup.config, startup.events) :: told) ∧
      told.flatMap Prod.snd = (p.work given startup.config).events := by
  have hstartup := answer_startup hstart
  cases p with
  | selfTest =>
    exact ⟨[(.verdict .ofSelfTest, Verdict.selfTestEvents)],
      List.Forall₂.cons hstartup (.cons rfl .nil), rfl⟩
  | demo =>
    rw [queries, work]
    by_cases hconfig : given.contains .showConfig = true
    · rw [if_pos hconfig, if_pos hconfig]
      exact ⟨[], List.Forall₂.cons hstartup .nil, rfl⟩
    · rw [if_neg hconfig, if_neg hconfig]
      exact ⟨[(.answers magicString linkedJsonVersion .current, Report.current.events)],
        List.Forall₂.cons hstartup (.cons rfl .nil), rfl⟩

/-- The logs of queries put together are the log of all that they tell. -/
theorem join_logs (f : Filter) (told : List (Reply × List Event)) :
    String.join (told.map fun x => f.log x.2) = f.log (told.flatMap Prod.snd) := by
  induction told with
  | nil => rfl
  | cons x told ih => rw [List.map_cons, String.join_cons, ih, List.flatMap_cons, f.log_append]

/-- Behind each accepted run that starts up stands a session, whose logs put together are what
the run leaves on standard error. -/
theorem exists_session {startup : Startup} (initial : Option Filter)
    (haccepts : p.Accepts arguments given) (hstart : s.start = .ok startup) :
    ∃ answers out,
      Session.run ⟨s, initial⟩ (.logLoaded :: (p.queries given).map .query) = .ok answers ∧
      p.run arguments s = .ok out ∧ out.stderr = String.join (answers.map Prod.snd) := by
  obtain ⟨hfilter, -, -⟩ := Surroundings.of_start_eq_ok hstart
  obtain ⟨told, hanswers, htold⟩ := p.exists_told given hstart
  refine ⟨_, _, Session.run_logLoaded_queries initial hfilter hanswers,
    run_of_start haccepts hstart, ?_⟩
  have hwork := join_logs startup.filter told
  simp only [output, ← htold, Filter.log_append, ← hwork, List.map_cons, List.map_map,
    String.join_cons, String.empty_append, Function.comp_def]

/-- Unless the choice of the filter breaks off, both programs leave on standard error the logs
of a session that asks for the startup and for their work, and show what it answers: the
report as lines, the verdict, or the configuration of the startup. -/
theorem run_refines_session (s : Surroundings) (initial : Option Filter)
    (h : ¬s.config.BreaksOff) :
    ∃ (loaded c : Config) (string version : String) (report : Report) (v : Verdict)
      (chosen started answered tested configured : String),
      Session.run ⟨s, initial⟩ [.logLoaded, .query .startup, .query .answers]
        = .ok [(.config loaded, chosen), (.config c, started),
            (.answers string version report, answered)] ∧
      Session.run ⟨s, initial⟩ [.logLoaded, .query .startup, .query .selfTest]
        = .ok [(.config loaded, chosen), (.config c, started), (.verdict v, tested)] ∧
      demo.run [] s = .ok {
        code := 0
        stdout := String.join (report.lines.map (· ++ "\n"))
        stderr := chosen ++ started ++ answered } ∧
      selfTest.run [] s = .ok {
        code := v.exitCode
        stdout := v.shown ++ "\n"
        stderr := chosen ++ started ++ tested } ∧
      demo.run ["--show-config"] s = .ok ⟨0, c.printed, configured⟩ := by
  obtain ⟨startup, hstart⟩ := Surroundings.exists_start_iff.2 h
  obtain ⟨hfilter, -, -⟩ := Surroundings.of_start_eq_ok hstart
  have hstartup := answer_startup hstart
  have hdemo : demo.Accepts [] [] := ⟨by decide, by decide, .inl rfl⟩
  have hselfTest : selfTest.Accepts [] [] := ⟨by decide, by decide, .inl rfl⟩
  have hconfig : demo.Accepts ["--show-config"] [.showConfig] :=
    ⟨by decide, by decide, .inl (by decide)⟩
  -- both sessions and both runs record through the filter of the startup
  have hanswers : Session.Tells s [.startup, .answers]
      [(.config startup.config, startup.events),
        (.answers magicString linkedJsonVersion .current, Report.current.events)] :=
    List.Forall₂.cons hstartup (.cons rfl .nil)
  have hverdict : Session.Tells s [.startup, .selfTest]
      [(.config startup.config, startup.events), (.verdict .ofSelfTest, Verdict.selfTestEvents)] :=
    List.Forall₂.cons hstartup (.cons rfl .nil)
  refine ⟨s.config, startup.config, magicString, linkedJsonVersion, .current, .ofSelfTest, "",
    startup.filter.log startup.events, startup.filter.log Report.current.events,
    startup.filter.log Verdict.selfTestEvents, _,
    Session.run_logLoaded_queries initial hfilter hanswers,
    Session.run_logLoaded_queries initial hfilter hverdict, ?_, ?_, run_of_start hconfig hstart⟩
  · rw [run_of_start hdemo hstart, output, Filter.log_append, String.empty_append]
    rfl
  · rw [run_of_start hselfTest hstart, output, Filter.log_append, String.empty_append]
    rfl

/-- Surroundings whose file sets a filter. -/
def debugging : Surroundings where
  environment := .empty
  directory := some ⟨"/srv", .file (Text.utf8 "CPP_EXAMPLE_LOG=cpp_example=debug\n".toList)⟩

/-- The record of the configuration in these surroundings. -/
def debuggingStarted : String :=
  "DEBUG cpp_example: configuration loaded config=Config \x7b log_level: \"warn\", " ++
    "log_filter: Some(\"cpp_example=debug\") \x7d\n"

/-- The record of the self-test. -/
def debuggingTested : String :=
  "DEBUG cpp_example::selftest: self-test finished passed=true\n"

/-- The self-test is such a session though it already logs by the filter of the file. -/
theorem run_selfTest_debugging :
    let loaded : Config := ⟨"warn", some "cpp_example=debug"⟩
    ¬debugging.config.BreaksOff ∧
      Session.run ⟨debugging, some .default⟩ [.logLoaded, .query .startup, .query .selfTest]
        = .ok [(.config loaded, ""), (.config loaded, debuggingStarted),
            (.verdict (.pass magicString magicString), debuggingTested)] ∧
      selfTest.run [] debugging = .ok {
        code := 0
        stdout := "PASS: cpp-example-lib Magic: 123456789 = cpp-example-lib Magic: 123456789\n"
        stderr := debuggingStarted ++ debuggingTested } := by
  intro loaded
  have hconfig : debugging.config = loaded := by decide +kernel
  have hends : ¬debugging.config.BreaksOff := by
    rw [hconfig]
    exact Filter.exists_ofConfig_iff.1 ⟨_, rfl⟩
  have hanswers :
      Session.run ⟨debugging, some .default⟩ [.logLoaded, .query .startup, .query .selfTest]
        = .ok [(.config loaded, ""), (.config loaded, debuggingStarted),
            (.verdict (.pass magicString magicString), debuggingTested)] := by
    rfl
  obtain ⟨_, _, -, -, -, _, _, _, -, _, -, -, hsession, -, hrun, -⟩ :=
    run_refines_session debugging (some .default) hends
  -- what the run leaves behind is made of the answers and logs of the session
  rw [hanswers] at hsession
  cases hsession
  exact ⟨hends, hanswers, hrun⟩

end LinkReport.CommandLine.Program
