import LinkReport.Text.Bytes

/-!
# Process environments

An environment gives some names a value, and a value is any bytes. A value counts as text
only if it is UTF-8, and a variable without a text value is treated like an unset one by
every reader in this library.
-/

namespace LinkReport

/-- The variables of a process. -/
structure Environment where
  /-- The bytes of the variable of this name, if it is set. -/
  value? : String → Option (List UInt8)

namespace Environment

/-- No variable is set. -/
def empty : Environment :=
  ⟨fun _ => none⟩

/-- The environment with the variable `name` set to `value`. -/
def set (env : Environment) (name : String) (value : List UInt8) : Environment :=
  ⟨fun n => if n = name then some value else env.value? n⟩

/-- The environment without the variable `name`. -/
def unset (env : Environment) (name : String) : Environment :=
  ⟨fun n => if n = name then none else env.value? n⟩

section
variable {env : Environment} {name other : String} {value : List UInt8}

@[simp] theorem value?_empty : empty.value? name = none := rfl

@[simp] theorem value?_set_self : (env.set name value).value? name = some value := by
  simp [set]

theorem value?_set_of_ne (h : other ≠ name) :
    (env.set name value).value? other = env.value? other := by
  simp [set, h]

@[simp] theorem value?_unset_self : (env.unset name).value? name = none := by
  simp [unset]

theorem value?_unset_of_ne (h : other ≠ name) :
    (env.unset name).value? other = env.value? other := by
  simp [unset, h]

end

/-- The environment with these variables set, a later one in place of an earlier one. -/
def setAll (env : Environment) (vars : List (String × List UInt8)) : Environment :=
  vars.foldl (fun env v => env.set v.1 v.2) env

/-- The variable that a `name=value` text sets; none if its name is not UTF-8. -/
def variableOf? (entry : List UInt8) : Option (String × List UInt8) :=
  (Text.ofUtf8? (entry.takeWhile (· != '='.toUInt8))).map fun name =>
    (String.ofList name, (entry.dropWhile (· != '='.toUInt8)).drop 1)

/-- The environment that a block of `name=value` texts sets, where each text ends in a zero
byte. -/
def ofBlock (block : List UInt8) : Environment :=
  empty.setAll (((block.splitOn 0).filter (· ≠ [])).filterMap variableOf?)

/-- The text of the variable `name`, if it is set to UTF-8. -/
def text? (env : Environment) (name : String) : Option (List Char) :=
  (env.value? name).bind Text.ofUtf8?

theorem text?_set (env : Environment) (name other : String) (value : List UInt8) :
    (env.set name value).text? other =
      if other = name then Text.ofUtf8? value else env.text? other := by
  by_cases h : other = name
  · rw [if_pos h, h, text?, value?_set_self, Option.bind_some]
  · rw [if_neg h, text?, text?, value?_set_of_ne h]

theorem text?_unset (env : Environment) (name other : String) :
    (env.unset name).text? other = if other = name then none else env.text? other := by
  by_cases h : other = name
  · rw [if_pos h, h, text?, value?_unset_self, Option.bind_none]
  · rw [if_neg h, text?, text?, value?_unset_of_ne h]

end Environment
end LinkReport
