import LinkReport.Config
import LinkReport.Proofs.EnvFile.Writing

/-!
# The environment over the file

What a configuration is made of when the environment file was written line by line. The
process environment goes before the file, and of several assignments of one key the last
one counts.
-/

namespace LinkReport.Config

/-- The value that decides about a key: that of the process if it is set to UTF-8, even to
blanks, and else that of the last assignment of the key in the file. -/
def decidingValue? (env : Environment) (lines : List EnvFile.Written) (key : String) :
    Option (List Char) :=
  match env.text? key with
  | some value => some value
  | none => EnvFile.lastValue? key.toList (lines.filterMap EnvFile.Written.binding?)

theorem layered_eq_decidingValue? (env : Environment) (lines : List EnvFile.Written) :
    layered env (lines.filterMap EnvFile.Written.binding?) = decidingValue? env lines := by
  funext key
  rw [layered, decidingValue?]
  cases env.text? key <;> rfl

/-- A file whose bindings can be read loads. -/
theorem load_of_bindings {env : Environment} {content : List UInt8}
    {bindings : List EnvFile.Binding} (h : EnvFile.bindings env content = .ok bindings)
    (path : String) :
    load env ⟨path, .file content⟩ = .ok (ofVariables (layered env bindings)) := by
  have hread : Directory.bindings ⟨path, .file content⟩ env = .ok bindings := by
    rw [Directory.bindings]
    exact congrArg (Except.mapError _) h
  rw [load, hread]
  rfl

/-- A written file over which an environment is laid loads, and each field comes from the
value that decides about its key, trimmed, with the default in place of a blank one. -/
theorem load_write (env : Environment) (path : String) (lines : List EnvFile.Written) :
    ∃ c, load env ⟨path, .file (Text.utf8 (EnvFile.write lines))⟩ = .ok c ∧
      c.logLevel = (match decidingValue? env lines logLevelKey with
        | some value =>
          if Text.trim value = [] then "warn" else String.ofList (Text.trim value)
        | none => "warn") ∧
      c.logFilter = (match decidingValue? env lines logFilterKey with
        | some value =>
          if Text.trim value = [] then none else some (String.ofList (Text.trim value))
        | none => none) := by
  refine ⟨ofVariables (decidingValue? env lines), ?_, ?_, ?_⟩
  · rw [load_of_bindings (EnvFile.bindings_write env lines), layered_eq_decidingValue?]
  · rw [ofVariables, nonBlank?]
    cases decidingValue? env lines logLevelKey with
    | none => rfl
    | some value => by_cases h : Text.trim value = [] <;> simp [h, defaultLogLevel]
  · rw [ofVariables, nonBlank?]
    cases decidingValue? env lines logFilterKey <;> rfl

end LinkReport.Config
