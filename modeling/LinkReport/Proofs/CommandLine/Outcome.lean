import LinkReport.CommandLine.Run
import LinkReport.Proofs.CommandLine.Acceptance
import LinkReport.Proofs.Startup

/-!
# Outcomes of runs

The configuration decides about the log, and about what is shown to one who asks for the
configuration; it cannot reach the exit code or the rest of standard output. Only a filter
whose reading breaks off ends a run before its work.

* `Program.run_shows` exit code and standard output of a run that starts up
* `Program.run_ends_iff` the configurations with which startups and runs come to their end
-/

namespace LinkReport.CommandLine

/-- The text is these lines, each ended by one line end. -/
def IsLines (lines : List String) (text : String) : Prop :=
  text = String.join (lines.map (· ++ "\n")) ∧ ∀ line ∈ lines, '\n' ∉ line.toList

/-- The line on the string and the line on the version. -/
def answerLines : List String :=
  ["C++ example linking " ++ magicString, "Linking json-c version " ++ linkedJsonVersion]

/-- The object with the string and the version. -/
def answerObject : String :=
  "\x7b\"string\":\"" ++ magicString ++ "\",\"json_c_version\":\"" ++ linkedJsonVersion ++ "\"\x7d"

/-- The level and the filter of a configuration. -/
def configText (c : Config) : String :=
  "Configuration:\n" ++ ("  CPP_EXAMPLE_LOG_LEVEL: " ++ c.logLevel ++ "\n") ++
    ("  CPP_EXAMPLE_LOG: " ++ c.logFilter.getD "(unset)" ++ "\n")

theorem printed_eq_configText (c : Config) : c.printed = configText c := by
  have hprinted : c.printed = "Configuration:\n" ++
      ("  " ++ Config.logLevelKey ++ ": " ++ c.logLevel ++ "\n") ++
      ("  " ++ Config.logFilterKey ++ ": " ++ c.logFilter.getD "(unset)" ++ "\n") := rfl
  have hlevel : "  " ++ Config.logLevelKey ++ ": " = "  CPP_EXAMPLE_LOG_LEVEL: " := by decide
  have hfilter : "  " ++ Config.logFilterKey ++ ": " = "  CPP_EXAMPLE_LOG: " := by decide
  rw [hprinted, hlevel, hfilter]
  rfl

/-- What a program shows when its work is done: the verdict on the string, the answers of
the library as two lines or as one object, or the configuration. The lines are those of the
report, the object is what is written of it, and a configuration is printed. -/
inductive Program.Shows (s : Surroundings) (given : List Flag) : Program → String → Prop where
  | verdict {text : String}
    (htext : IsLines ["PASS: " ++ magicString ++ " = " ++ magicString] text) :
    Shows s given .selfTest text
  | lines {text : String} (hconfig : .showConfig ∉ given) (hjson : .json ∉ given)
    (hreport : Report.current.lines = answerLines) (htext : IsLines answerLines text) :
    Shows s given .demo text
  | object {text : String} (hconfig : .showConfig ∉ given) (hjson : .json ∈ given)
    (hreport : Report.current.toValue.toLine = .ok answerObject)
    (htext : IsLines [answerObject] text) : Shows s given .demo text
  | loaded {c : Config} (hconfig : .showConfig ∈ given) (hload : s.load = .ok c)
    (hprinted : c.printed = configText c) : Shows s given .demo c.printed
  | fallback {c : Config} {e : Config.LoadError} (hconfig : .showConfig ∈ given)
    (hload : s.load = .error e) (hc : Config.ofEnvironment s.environment = c)
    (hprinted : c.printed = configText c) : Shows s given .demo c.printed

namespace Program

variable {p : Program} {arguments : List String} {given : List Flag} {s : Surroundings}

namespace Shows

variable {text : String}

theorem isLines_answers (h : Shows s given .demo text) (hconfig : .showConfig ∉ given)
    (hjson : .json ∉ given) : IsLines answerLines text := by
  cases h with
  | lines _ _ hreport htext => exact htext
  | object _ hjson' => exact absurd hjson' hjson
  | loaded hconfig' => exact absurd hconfig' hconfig
  | fallback hconfig' => exact absurd hconfig' hconfig

theorem isLines_object (h : Shows s given .demo text) (hconfig : .showConfig ∉ given)
    (hjson : .json ∈ given) : IsLines [answerObject] text := by
  cases h with
  | lines _ hjson' => exact absurd hjson hjson'
  | object _ _ hreport htext => exact htext
  | loaded hconfig' => exact absurd hconfig' hconfig
  | fallback hconfig' => exact absurd hconfig' hconfig

theorem isLines_verdict (h : Shows s given .selfTest text) :
    IsLines ["PASS: " ++ magicString ++ " = " ++ magicString] text := by
  cases h with
  | verdict htext => exact htext

end Shows

/-! ## The work of a program -/

theorem work_code (p : Program) (given : List Flag) (c : Config) :
    (p.work given c).code = 0 := by
  cases p with
  | selfTest => rfl
  | demo =>
    rw [work]
    split <;> rfl

/-- What the work shows depends on the configuration only where that is asked for. -/
theorem work_shown (hconfig : .showConfig ∉ given) (c c' : Config) :
    (p.work given c).shown = (p.work given c').shown := by
  have hnot : ¬given.contains .showConfig = true := fun h => hconfig (List.contains_iff_mem.1 h)
  cases p with
  | selfTest => rfl
  | demo => rw [work, work, if_neg hnot, if_neg hnot]

/-- What a run leaves behind that does its work after a startup. -/
def output (p : Program) (given : List Flag) (startup : Startup) : Output where
  code := 0
  stdout := (p.work given startup.config).shown
  stderr := startup.filter.log (startup.events ++ (p.work given startup.config).events)

/-- A run with accepted arguments starts up and then does the work. -/
theorem run_of_accepts (h : p.Accepts arguments given) (s : Surroundings) :
    p.run arguments s = s.start.map (p.output given) := by
  rw [run, read_eq_work_iff.2 h]
  cases s.start with
  | error crash => rfl
  | ok startup =>
    show Except.ok _ = Except.ok (p.output given startup)
    rw [output, work_code]

theorem run_of_start {startup : Startup} (h : p.Accepts arguments given)
    (hstart : s.start = .ok startup) : p.run arguments s = .ok (p.output given startup) := by
  rw [run_of_accepts h, hstart]
  rfl

/-- A run with accepted arguments that ends has started up. -/
theorem of_run_eq_ok {out : Output} (h : p.Accepts arguments given)
    (hrun : p.run arguments s = .ok out) :
    ∃ startup, s.start = .ok startup ∧ out = p.output given startup := by
  rw [run_of_accepts h] at hrun
  cases hstart : s.start with
  | error crash =>
    rw [hstart] at hrun
    cases hrun
  | ok startup =>
    rw [hstart] at hrun
    exact ⟨startup, rfl, (Except.ok.inj hrun).symm⟩

/-- Arguments that are not accepted are answered without a look at the surroundings. -/
theorem run_of_not_accepts (h : ∀ given, ¬p.Accepts arguments given) (s s' : Surroundings) :
    p.run arguments s = p.run arguments s' := by
  cases hread : p.read arguments with
  | work given => exact absurd (read_eq_work_iff.1 hread) (h given)
  | help => rw [run, run, hread]
  | version => rw [run, run, hread]
  | refused fault => rw [run, run, hread]

/-- No surroundings change the exit code of a run that ends. -/
theorem code_eq_of_run_eq_ok {s' : Surroundings} {out out' : Output}
    (hrun : p.run arguments s = .ok out) (hrun' : p.run arguments s' = .ok out') :
    out.code = out'.code := by
  by_cases haccepts : ∃ given, p.Accepts arguments given
  · obtain ⟨given, haccepts⟩ := haccepts
    obtain ⟨_, -, rfl⟩ := of_run_eq_ok haccepts hrun
    obtain ⟨_, -, rfl⟩ := of_run_eq_ok haccepts hrun'
    rfl
  · rw [run_of_not_accepts (fun given h => haccepts ⟨given, h⟩) s s', hrun'] at hrun
    rw [Except.ok.inj hrun]

/-! ## What is shown -/

theorem isLines_ofSelfTest :
    IsLines ["PASS: " ++ magicString ++ " = " ++ magicString]
      (Verdict.ofSelfTest.shown ++ "\n") := by
  constructor
  · have hpass : Verdict.ofSelfTest = .pass magicString magicString := by decide
    rw [hpass]
    rfl
  · decide +kernel

theorem isLines_lines :
    IsLines answerLines (String.join (Report.current.lines.map (· ++ "\n"))) := by
  refine ⟨rfl, ?_⟩
  decide +kernel

theorem toLine_eq_answerObject : Report.current.toLine = answerObject := by
  decide +kernel

theorem isLines_toLine : IsLines [answerObject] (Report.current.toLine ++ "\n") := by
  rw [toLine_eq_answerObject]
  constructor
  · simp
  · decide +kernel

theorem work_shows (p : Program) (given : List Flag) (s : Surroundings) :
    Shows s given p (p.work given s.config).shown := by
  cases p with
  | selfTest => exact .verdict isLines_ofSelfTest
  | demo =>
    rw [work]
    by_cases hconfig : .showConfig ∈ given
    · rw [if_pos (List.contains_iff_mem.2 hconfig), Surroundings.config]
      cases hload : s.load with
      | ok c => exact .loaded hconfig hload (printed_eq_configText c)
      | error e => exact .fallback hconfig hload rfl (printed_eq_configText _)
    · rw [if_neg fun h => hconfig (List.contains_iff_mem.1 h)]
      by_cases hjson : .json ∈ given
      · simp only [List.contains_iff_mem.2 hjson, if_true]
        have hreport := Report.current.toLine_toValue
        rw [toLine_eq_answerObject] at hreport
        exact .object hconfig hjson hreport isLines_toLine
      · simp only [if_neg fun h => hjson (List.contains_iff_mem.1 h)]
        exact .lines hconfig hjson rfl isLines_lines

/-! ## No record among it -/

/-- Every record names the library with an underscore, as nothing that is shown does. -/
theorem infix_record (e : Event) : ['_', 'e'] <:+: e.record.toList := by
  have htargets : ∀ target ∈ ["cpp_example::example", "cpp_example::selftest", "cpp_example"],
      ['_', 'e'] <:+: target.toList := by decide +kernel
  have htarget : e.target ∈ ["cpp_example::example", "cpp_example::selftest", "cpp_example"] := by
    cases e <;> simp [Event.target]
  -- the target stands between the level and the message
  refine (htargets e.target htarget).trans ?_
  refine ⟨(e.level.label ++ " ").toList, (": " ++ e.shownMessage ++
    String.join (e.fields.map fun f => " " ++ f.1 ++ "=" ++ f.2) ++ "\n").toList, ?_⟩
  rw [← String.toList_append, ← String.toList_append, Event.record]
  simp only [String.append_assoc]

theorem not_infix_shown (hconfig : .showConfig ∉ given) (c : Config) :
    ¬['_', 'e'] <:+: (p.work given c).shown.toList := by
  cases p with
  | selfTest =>
    show ¬['_', 'e'] <:+: (Verdict.ofSelfTest.shown ++ "\n").toList
    decide +kernel
  | demo =>
    rw [work, if_neg fun h => hconfig (List.contains_iff_mem.1 h)]
    by_cases hjson : .json ∈ given
    · simp only [List.contains_iff_mem.2 hjson, if_true, Report.toLine, String.toList_append,
        String.toList_ofList]
      decide +kernel
    · simp only [if_neg fun h => hjson (List.contains_iff_mem.1 h)]
      decide +kernel

/-! ## Exit code and standard output -/

/-- A run with accepted arguments that starts up ends with exit code 0 and shows nothing but
the answers of its program. Unless the configuration is asked for, these are the same in all
surroundings, and no record is found among them. -/
theorem run_shows {startup : Startup} (haccepts : p.Accepts arguments given)
    (hstart : s.start = .ok startup) :
    ∃ out, p.run arguments s = .ok out ∧ out.code = 0 ∧ Shows s given p out.stdout ∧
      (.showConfig ∉ given →
        (∀ (s' : Surroundings) (out' : Output), p.run arguments s' = .ok out' →
          out'.code = 0 ∧ out'.stdout = out.stdout) ∧
        ∀ e : Event, ¬e.record.toList <:+: out.stdout.toList) := by
  obtain ⟨-, hconfig, -⟩ := Surroundings.of_start_eq_ok hstart
  have hrun := run_of_start haccepts hstart
  refine ⟨_, hrun, rfl, ?_, fun hnot => ⟨fun s' out' hrun' => ?_, fun e hrecord => ?_⟩⟩
  · show Shows s given p (p.work given startup.config).shown
    rw [hconfig]
    exact work_shows p given s
  · obtain ⟨startup', -, rfl⟩ := of_run_eq_ok haccepts hrun'
    exact ⟨rfl, work_shown hnot _ _⟩
  · exact not_infix_shown hnot startup.config ((infix_record e).trans hrecord)

/-- A variable that is not UTF-8, and a file with a malformed line. -/
def malformed : Surroundings where
  environment := Environment.empty.set "CPP_EXAMPLE_LOG" [0xff]
  directory := some ⟨"/srv", .file [0x4e, 0x41]⟩

/-- The answers are shown though neither the variable nor the file can be read. -/
theorem run_shows_object :
    (∃ out, Program.demo.run ["--json", "--"] malformed = .ok out ∧ out.code = 0 ∧ out.stdout =
      "\x7b\"string\":\"cpp-example-lib Magic: 123456789\",\"json_c_version\":\"1.0.154\"\x7d\n") ∧
    (∃ out, Program.demo.run [] malformed = .ok out ∧ out.code = 0 ∧ out.stdout =
      "C++ example linking cpp-example-lib Magic: 123456789\nLinking json-c version 1.0.154\n") ∧
    ∃ out, Program.selfTest.run [] malformed = .ok out ∧ out.code = 0 ∧ out.stdout =
      "PASS: cpp-example-lib Magic: 123456789 = cpp-example-lib Magic: 123456789\n" := by
  obtain ⟨startup, hstart⟩ : ∃ startup, malformed.start = .ok startup := ⟨_, rfl⟩
  have hobject : Program.demo.Accepts ["--json", "--"] [.json] :=
    ⟨by decide, by decide, .inr (by decide)⟩
  have hlines : Program.demo.Accepts [] [] := ⟨by decide, by decide, .inl rfl⟩
  have hverdict : Program.selfTest.Accepts [] [] := ⟨by decide, by decide, .inl rfl⟩
  refine ⟨?_, ?_, ?_⟩
  · obtain ⟨out, hrun, hcode, hshows, -⟩ := run_shows hobject hstart
    exact ⟨out, hrun, hcode, (hshows.isLines_object (by decide) (by decide)).1⟩
  · obtain ⟨out, hrun, hcode, hshows, -⟩ := run_shows hlines hstart
    exact ⟨out, hrun, hcode, (hshows.isLines_answers (by decide) (by decide)).1⟩
  · obtain ⟨out, hrun, hcode, hshows, -⟩ := run_shows hverdict hstart
    exact ⟨out, hrun, hcode, hshows.isLines_verdict.1⟩

/-! ## Startups that break off -/

/-- Startups and runs come to their end with exactly the configurations in which no part of a
filter starts or ends inside a character. Then the filter is that of the first usable text,
and no run has another exit code than it has in other surroundings. -/
theorem run_ends_iff (c : Config) (p : Program) (arguments : List String)
    (s s' : Surroundings) :
    ((∃ f, Filter.ofConfig c = .ok f) ↔ ¬c.BreaksOff) ∧
    (∀ f, Filter.ofConfig c = .ok f → Filter.IsFor c f) ∧
    ((∃ startup, s.start = .ok startup ∧ startup.config = s.config) ↔ ¬s.config.BreaksOff) ∧
    (∀ given, p.Accepts arguments given →
      ((∃ out, p.run arguments s = .ok out ∧ out.code = 0) ↔ ¬s.config.BreaksOff)) ∧
    ∀ out out', p.run arguments s = .ok out → p.run arguments s' = .ok out' →
      out.code = out'.code := by
  refine ⟨Filter.exists_ofConfig_iff, fun f hf => Filter.isFor_of_ofConfig hf, ?_,
    fun given haccepts => ?_, fun out out' hrun hrun' => ?_⟩
  · rw [← Surroundings.exists_start_iff]
    constructor
    · intro hends
      obtain ⟨startup, hstart, -⟩ := hends
      exact ⟨startup, hstart⟩
    · intro hends
      obtain ⟨startup, hstart⟩ := hends
      exact ⟨startup, hstart, (Surroundings.of_start_eq_ok hstart).2.1⟩
  · rw [← Surroundings.exists_start_iff]
    constructor
    · intro hends
      obtain ⟨out, hrun, -⟩ := hends
      obtain ⟨startup, hstart, -⟩ := of_run_eq_ok haccepts hrun
      exact ⟨startup, hstart⟩
    · intro hends
      obtain ⟨startup, hstart⟩ := hends
      exact ⟨_, run_of_start haccepts hstart, rfl⟩
  · exact code_eq_of_run_eq_ok hrun hrun'

/-- A blank before a directive shifts its parts into the middle of a character. -/
theorem not_forall_ofConfig_ends : ¬∀ c : Config, ∃ f, Filter.ofConfig c = .ok f := by
  intro h
  obtain ⟨f, hf⟩ := h ⟨"info", some "warn, é=loud"⟩
  have hcrash : Filter.ofConfig ⟨"info", some "warn, é=loud"⟩ = .error .insideCharacter := rfl
  rw [hcrash] at hf
  cases hf

end Program
end LinkReport.CommandLine
