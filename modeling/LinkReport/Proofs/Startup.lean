import LinkReport.Proofs.Filter.Choice
import LinkReport.Startup

/-!
# Startups

A startup breaks off if the choice of its filter does, and in no other way. A file that
cannot be loaded leaves the configuration of the environment alone, and one more event.

* `Surroundings.start_cases` the two ways in which a startup ends
* `Surroundings.config_withoutEnvFile`, `Surroundings.startupEvents_of_load_error` what
  remains of a file that cannot be loaded
-/

namespace LinkReport
namespace Surroundings

variable {s : Surroundings} {e : Config.LoadError}

/-! ## The two ends of a startup -/

theorem start_of_ofConfig {f : Filter} (h : Filter.ofConfig s.config = .ok f) :
    s.start = .ok ⟨s.config, f, s.startupEvents⟩ := by
  rw [start, h]
  rfl

/-- A startup breaks off with the choice of its filter, or settles the configuration that
could be loaded or made, with the filter for it. -/
theorem start_cases (s : Surroundings) :
    (s.config.BreaksOff ∧ s.start = .error .insideCharacter) ∨
      ¬s.config.BreaksOff ∧ ∃ f, Filter.ofConfig s.config = .ok f ∧
        s.start = .ok ⟨s.config, f, s.startupEvents⟩ := by
  rcases Filter.ofConfig_cases s.config with ⟨hbreak, hcrash⟩ | ⟨hnot, f, hfilter, -⟩
  · refine .inl ⟨hbreak, ?_⟩
    rw [start, hcrash]
    rfl
  · exact .inr ⟨hnot, f, hfilter, start_of_ofConfig hfilter⟩

theorem exists_start_iff : (∃ startup, s.start = .ok startup) ↔ ¬s.config.BreaksOff := by
  rcases start_cases s with ⟨hbreak, hcrash⟩ | ⟨hnot, f, -, hstart⟩
  · simp [hbreak, hcrash]
  · simp [hnot, hstart]

/-- A startup that ends has settled its surroundings' configuration. -/
theorem of_start_eq_ok {startup : Startup} (h : s.start = .ok startup) :
    Filter.ofConfig s.config = .ok startup.filter ∧ startup.config = s.config ∧
      startup.events = s.startupEvents := by
  rcases start_cases s with ⟨-, hcrash⟩ | ⟨-, f, hfilter, hstart⟩
  · rw [hcrash] at h
    cases h
  · rw [hstart] at h
    cases h
    exact ⟨hfilter, rfl, rfl⟩

/-! ## A file that cannot be loaded -/

/-- The surroundings with the same environment and no environment file. -/
def withoutEnvFile (s : Surroundings) (path : String) : Surroundings where
  environment := s.environment
  directory := some ⟨path, .absent⟩

theorem load_withoutEnvFile (s : Surroundings) (path : String) :
    (s.withoutEnvFile path).load = .ok (Config.ofEnvironment s.environment) := by
  -- below the variables lie no bindings
  have hlayered : Config.layered s.environment [] = s.environment.text? := by
    funext key
    rw [Config.layered]
    cases s.environment.text? key <;> rfl
  show Config.load s.environment ⟨path, .absent⟩ = _
  rw [Config.load, Config.Directory.bindings, Config.ofEnvironment, ← hlayered]
  rfl

theorem config_withoutEnvFile (s : Surroundings) (path : String) :
    (s.withoutEnvFile path).config = Config.ofEnvironment s.environment := by
  rw [config, load_withoutEnvFile]

theorem startupEvents_withoutEnvFile (s : Surroundings) (path : String) :
    (s.withoutEnvFile path).startupEvents
      = [.configurationLoaded (Config.ofEnvironment s.environment)] := by
  rw [startupEvents, load_withoutEnvFile]

/-- No binding of a file that cannot be loaded survives. -/
theorem config_of_load_error (h : s.load = .error e) :
    s.config = Config.ofEnvironment s.environment := by
  rw [config, h]

/-- A file that cannot be loaded is told first, and then what a startup without it tells. -/
theorem startupEvents_of_load_error (h : s.load = .error e) (path : String) :
    s.startupEvents = .loadFailed e :: (s.withoutEnvFile path).startupEvents := by
  rw [startupEvents_withoutEnvFile, startupEvents, h]

/-- A startup with a file that cannot be loaded is that without it and one more event. -/
theorem start_of_load_error (h : s.load = .error e) (path : String) :
    s.start = (s.withoutEnvFile path).start.map fun startup =>
      { startup with events := .loadFailed e :: startup.events } := by
  rw [start, start, config_of_load_error h, config_withoutEnvFile,
    startupEvents_of_load_error h path]
  cases Filter.ofConfig (Config.ofEnvironment s.environment) <;> rfl

end Surroundings
end LinkReport
