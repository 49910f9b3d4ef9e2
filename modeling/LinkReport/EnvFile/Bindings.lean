import LinkReport.Environment
import LinkReport.EnvFile.Entry
import LinkReport.EnvFile.Line

/-!
# The bindings of an environment file

The entries of a file bind keys in order. A `$name` in a value stands for the variable of
the process, or else for the last binding of an earlier line, or else for nothing. The
first fault ends the reading, and the bindings before it are lost.
-/

namespace LinkReport.EnvFile

/-- A key and its value. -/
abbrev Binding := List Char × List Char

/-- The last value that `bindings` give to `key`. -/
def lastValue? (key : List Char) (bindings : List Binding) : Option (List Char) :=
  bindings.reverse.lookup key

@[simp] theorem lastValue?_nil (key : List Char) : lastValue? key [] = none := rfl

theorem lastValue?_append_singleton (key : List Char) (bs : List Binding) (b : Binding) :
    lastValue? key (bs ++ [b]) = if key = b.1 then some b.2 else lastValue? key bs := by
  obtain ⟨k, v⟩ := b
  by_cases h : key = k
  · simp [lastValue?, h]
  · simp [lastValue?, List.lookup_cons, h, beq_eq_false_iff_ne.2 h]

/-- What a name in a value stands for, after the bindings of earlier lines. -/
def expand (env : Environment) (earlier : List Binding) (name : List Char) : List Char :=
  ((env.text? (String.ofList name)).or (lastValue? name earlier)).getD []

/-- The bindings of the lines, after those of earlier lines. -/
def bindLines (env : Environment) (earlier : List Binding) :
    List (Except Error (List Char)) → Except Error (List Binding)
  | [] => .ok earlier
  | .error e :: _ => .error e
  | .ok line :: lines => do
    match ← readLine (expand env earlier) line with
    | none => bindLines env earlier lines
    | some binding => bindLines env (earlier ++ [binding]) lines

/-- The bindings of a file, in order. -/
def bindings (env : Environment) (content : List UInt8) : Except Error (List Binding) :=
  bindLines env [] (logicalLines content)

end LinkReport.EnvFile
