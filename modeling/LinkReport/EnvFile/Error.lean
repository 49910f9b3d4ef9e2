/-!
# What can be wrong with an environment file
-/

namespace LinkReport.EnvFile

/-- A fault that ends the reading of an environment file. -/
inductive Error where
  /-- A line or a value that cannot be read, with the position of the fault in it. -/
  | unreadable (text : List Char) (index : Nat)
  /-- A line that is not UTF-8. -/
  | notUtf8
deriving DecidableEq, Repr

/-- The wording of a fault. -/
def Error.message : Error → String
  | .unreadable text index =>
    s!"Error parsing line: '{String.ofList text}', error at line index: {index}"
  | .notUtf8 => "stream did not contain valid UTF-8"

end LinkReport.EnvFile
