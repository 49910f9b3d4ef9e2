import LinkReport.Report
import LinkReport.Text.Quoted

/-!
# The verdict of the self-test

The self-test compares the string that the library returns with the one that it should
return. The verdict keeps both strings.
-/

namespace LinkReport

/-- The outcome of comparing a returned string with the expected one. -/
inductive Verdict where
  | pass (returned expected : String)
  | fail (returned expected : String)
deriving DecidableEq, Repr

namespace Verdict

/-- The verdict on two strings. -/
def evaluate (returned expected : String) : Verdict :=
  if returned = expected then .pass returned expected else .fail returned expected

/-- The verdict on this build. -/
def ofSelfTest : Verdict :=
  evaluate magicString magicString

/-- The string that was returned. -/
def returned : Verdict → String
  | .pass returned _ | .fail returned _ => returned

/-- The string that was expected. -/
def expected : Verdict → String
  | .pass _ expected | .fail _ expected => expected

/-- The strings were found equal. -/
def passed : Verdict → Bool
  | .pass .. => true
  | .fail .. => false

/-- The exit code of a process that ends with the verdict. -/
def exitCode (v : Verdict) : Nat :=
  if v.passed then 0 else 1

/-- The verdict as a line for the user. -/
def shown : Verdict → String
  | .pass returned expected => s!"PASS: {returned} = {expected}"
  | .fail returned expected => s!"FAIL: {returned} != {expected}"

/-- The name of the outcome. -/
def name : Verdict → String
  | .pass .. => "Pass"
  | .fail .. => "Fail"

/-- The verdict with its strings in quotes, on one line. -/
def inspected (v : Verdict) : String :=
  v.name ++ " \x7b returned: " ++ Text.quoted v.returned ++
    ", expected: " ++ Text.quoted v.expected ++ " \x7d"

end Verdict
end LinkReport
