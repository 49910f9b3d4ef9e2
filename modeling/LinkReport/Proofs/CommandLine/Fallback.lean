import LinkReport.Proofs.CommandLine.Outcome
import LinkReport.Proofs.Config.NormalForm
import LinkReport.Proofs.Event
import LinkReport.Proofs.Text.Encoding
import LinkReport.Session

/-!
# Falling back to the environment

Where no configuration can be loaded, the programs do what they do without an environment
file, and one warning goes before the rest of the log. This holds for whatever stands in the
file before the line at fault, and also where the working directory is gone.

* `CommandLine.fallback_of_load_error` startups, sessions and runs against those without a
  file
-/

namespace LinkReport

variable {s : Surroundings} {e : Config.LoadError}

/-! ## Environments that say nothing -/

/-- Neither variable of the configuration is set to a text that is more than blanks. -/
def Environment.IsSilent (env : Environment) : Prop :=
  ∀ key ∈ [Config.logLevelKey, Config.logFilterKey], ∀ value, env.text? key = some value →
    ∀ c ∈ value, Text.isBlank c = true

theorem Config.ofEnvironment_of_isSilent {env : Environment} (h : env.IsSilent) :
    ofEnvironment env = .default := by
  have hlevel : nonBlank? (env.text? logLevelKey) = none :=
    nonBlank?_eq_none_iff.2 (h logLevelKey List.mem_cons_self)
  have hfilter : nonBlank? (env.text? logFilterKey) = none :=
    nonBlank?_eq_none_iff.2 (h logFilterKey (List.mem_cons_of_mem _ List.mem_cons_self))
  rw [ofEnvironment, ofVariables, hlevel, hfilter]
  rfl

theorem Filter.ofConfig_default : ofConfig .default = .ok default := rfl

/-! ## Sessions -/

/-- A startup in a session answers the same, and records the warning before the rest where
something is recorded at all. -/
theorem Session.take_startup_of_load_error (hload : s.load = .error e) (path : String)
    (subscriber : Option Filter) :
    (Step.query .startup).take ⟨s, subscriber⟩ =
      ((Step.query .startup).take ⟨s.withoutEnvFile path, subscriber⟩).map fun answer =>
        (⟨s, subscriber⟩, answer.2.1,
          (match subscriber with
            | some f => e.recorded f
            | none => "") ++ answer.2.2) := by
  rw [Step.take, Step.take, Query.answer, Query.answer,
    Surroundings.start_of_load_error hload path]
  cases (s.withoutEnvFile path).start with
  | error crash => rfl
  | ok startup =>
    have hlog : State.log ⟨s, subscriber⟩ (.loadFailed e :: startup.events) =
        (match subscriber with
          | some f => e.recorded f
          | none => "") ++ State.log ⟨s.withoutEnvFile path, subscriber⟩ startup.events := by
      cases subscriber with
      | none => rfl
      | some f => exact f.log_loadFailed e startup.events
    show Except.ok (_, _, State.log ⟨s, subscriber⟩ (.loadFailed e :: startup.events)) = _
    rw [hlog]
    rfl

namespace CommandLine

variable {p : Program} {arguments : List String} {given : List Flag}

/-! ## Runs -/

/-- One load error more among the events of a startup is one line more on standard error. -/
theorem Program.output_loadFailed (p : Program) (given : List Flag) (startup : Startup)
    (e : Config.LoadError) :
    p.output given { startup with events := .loadFailed e :: startup.events } =
      { p.output given startup with
        stderr := e.recorded startup.filter ++ (p.output given startup).stderr } := by
  rw [output, List.cons_append, Filter.log_loadFailed]
  rfl

/-- A run that falls back differs from one without an environment file in the warning
alone. -/
theorem Program.run_of_load_error {f : Filter} (hload : s.load = .error e) (path : String)
    (haccepts : p.Accepts arguments given)
    (hfilter : Filter.ofConfig (Config.ofEnvironment s.environment) = .ok f) :
    ∃ out, p.run arguments (s.withoutEnvFile path) = .ok out ∧
      p.run arguments s = .ok { out with stderr := e.recorded f ++ out.stderr } := by
  have hclean : Filter.ofConfig (s.withoutEnvFile path).config = .ok f := by
    rw [Surroundings.config_withoutEnvFile]
    exact hfilter
  have hstart := Surroundings.start_of_ofConfig hclean
  refine ⟨_, run_of_start haccepts hstart, ?_⟩
  rw [run_of_accepts haccepts, Surroundings.start_of_load_error hload path, hstart]
  exact congrArg Except.ok (p.output_loadFailed given _ e)

/-- The work of a program tells nothing that passes without configuration. -/
theorem Program.default_log_work (p : Program) (given : List Flag) (c : Config) :
    Filter.default.log (p.work given c).events = "" := by
  apply Filter.log_eq_empty
  intro event hevent
  cases p with
  | selfTest =>
    obtain rfl := List.mem_singleton.1 hevent
    rfl
  | demo =>
    rw [work] at hevent
    split at hevent
    · cases hevent
    · obtain rfl := List.mem_singleton.1 hevent
      rfl

/-- In an environment that says nothing, the warning is all that a run leaves on standard
error. -/
theorem Program.run_of_isSilent (hload : s.load = .error e) (hsilent : s.environment.IsSilent)
    (haccepts : p.Accepts arguments given) :
    ∃ out, p.run arguments s = .ok out ∧ out.stderr = e.warning := by
  have hconfig : s.config = .default := by
    rw [Surroundings.config_of_load_error hload, Config.ofEnvironment_of_isSilent hsilent]
  have hevents : s.startupEvents = [.loadFailed e, .configurationLoaded .default] := by
    rw [Surroundings.startupEvents, hload, ← Config.ofEnvironment_of_isSilent hsilent]
  have hstart : s.start = .ok ⟨.default, .default, s.startupEvents⟩ := by
    rw [← hconfig]
    apply Surroundings.start_of_ofConfig
    rw [hconfig]
    exact Filter.ofConfig_default
  refine ⟨_, run_of_start haccepts hstart, ?_⟩
  -- the other events are for debugging, so the default filter drops them
  have hquiet : Filter.default.admits (.configurationLoaded .default) = false := rfl
  have hadmits : Filter.default.admitsAt .warn "cpp_example" ["message"] = true := rfl
  show Filter.default.log (s.startupEvents ++ (p.work given .default).events) = e.warning
  rw [hevents, List.cons_append, List.singleton_append, Filter.log_loadFailed, Filter.log_cons,
    hquiet, default_log_work, Config.LoadError.recorded, hadmits]
  exact String.append_empty

/-! ## Everything that falls back -/

/-- Where loading fails, a startup gives the configuration of the environment alone, as one
without an environment file does. A session and a run do the same in both cases, and the
warning before the rest of the log is there exactly if the filter admits it; it always is
where the environment says nothing. -/
theorem fallback_of_load_error (hload : s.load = .error e) (path : String) :
    s.config = (s.withoutEnvFile path).config ∧
    s.start.map Startup.config = (s.withoutEnvFile path).start.map Startup.config ∧
    (∀ subscriber : Option Filter,
      (Session.Step.query .startup).take ⟨s, subscriber⟩ =
        ((Session.Step.query .startup).take ⟨s.withoutEnvFile path, subscriber⟩).map
          fun answer => (⟨s, subscriber⟩, answer.2.1,
            (match subscriber with
              | some f => if f.admitsAt .warn "cpp_example" ["message"] then e.warning else ""
              | none => "") ++ answer.2.2)) ∧
    (∀ (p : Program) (arguments : List String) (given : List Flag) (f : Filter),
      p.Accepts arguments given → Filter.ofConfig s.config = .ok f →
        ∃ out, p.run arguments (s.withoutEnvFile path) = .ok out ∧
          p.run arguments s = .ok { out with
            stderr := (if f.admitsAt .warn "cpp_example" ["message"] then e.warning else "") ++
              out.stderr }) ∧
    (s.environment.IsSilent →
      ∀ (p : Program) (arguments : List String) (given : List Flag), p.Accepts arguments given →
        ∃ out, p.run arguments s = .ok out ∧ out.stderr = e.warning) := by
  refine ⟨?_, ?_, fun subscriber => ?_, fun p arguments given f haccepts hfilter => ?_,
    fun hsilent p arguments given haccepts => Program.run_of_isSilent hload hsilent haccepts⟩
  · rw [Surroundings.config_of_load_error hload, Surroundings.config_withoutEnvFile]
  · rw [Surroundings.start_of_load_error hload path]
    cases (s.withoutEnvFile path).start <;> rfl
  · exact Session.take_startup_of_load_error hload path subscriber
  · rw [Surroundings.config_of_load_error hload] at hfilter
    exact Program.run_of_load_error hload path haccepts hfilter

/-- The warning is all that is written of a file whose first line binds a filter and whose
second is malformed, and where the directory is gone. -/
theorem fallback_after_binding :
    (∃ out, Program.selfTest.run [] ⟨.empty, some ⟨"/srv",
        .file (Text.utf8 "CPP_EXAMPLE_LOG=debug\nA".toList)⟩⟩ = .ok out ∧
      out.stderr = (Config.LoadError.badFile "/srv/.env" (.unreadable ['A'] 1)).warning) ∧
    ∃ out, Program.selfTest.run [] ⟨.empty, none⟩ = .ok out ∧
      out.stderr = Config.LoadError.noDirectory.warning := by
  have haccepts : Program.selfTest.Accepts [] [] := ⟨by decide, by decide, .inl rfl⟩
  have hsilent : Environment.empty.IsSilent := by
    intro key _ value hvalue
    cases hvalue
  constructor
  · obtain ⟨-, -, -, -, hwarn⟩ := fallback_of_load_error (s := ⟨.empty, some ⟨"/srv",
      .file (Text.utf8 "CPP_EXAMPLE_LOG=debug\nA".toList)⟩⟩) rfl "/srv"
    exact hwarn hsilent .selfTest [] [] haccepts
  · obtain ⟨-, -, -, -, hwarn⟩ := fallback_of_load_error (s := ⟨.empty, none⟩) rfl "/srv"
    exact hwarn hsilent .selfTest [] [] haccepts

end CommandLine
end LinkReport
