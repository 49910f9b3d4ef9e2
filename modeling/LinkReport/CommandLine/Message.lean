import LinkReport.CommandLine.Arguments

/-!
# What the programs say about their arguments

The texts of help, version and faults.
-/

namespace LinkReport.CommandLine

namespace Program

/-- The version of both programs. -/
def release : String := "0.1.0"

/-- The answer to a request for the version. -/
def versionText (p : Program) : String :=
  p.name ++ " " ++ release ++ "\n"

/-- How a program is called, with these flags if there are any. -/
def usage (p : Program) (given : List Flag) : String :=
  match p, given with
  | .demo, [] => p.name ++ " [OPTIONS]"
  | _, _ => p.name ++ String.join (given.map fun f => " " ++ f.written)

/-- The answer to a request for help. -/
def helpText : Program → String
  | .demo =>
    "Print the example library's string and linked JSON version\n\n" ++
    "Usage: " ++ usage .demo [] ++ "\n\n" ++
    "Options:\n" ++
    "      --json         Print a single JSON object instead of plain lines\n" ++
    "      --show-config  Print the effective configuration and exit\n" ++
    "  -h, --help         Print help\n" ++
    "  -V, --version      Print version\n"
  | .selfTest =>
    "Check that the example library returns its magic string\n\n" ++
    "Usage: " ++ usage .selfTest [] ++ "\n\n" ++
    "Options:\n" ++
    "  -h, --help     Print help\n" ++
    "  -V, --version  Print version\n"

end Program

/-- The flags with one more, unless it is among them. -/
def withFlag (given : List Flag) (flag : Flag) : List Flag :=
  if given.contains flag then given else given ++ [flag]

namespace ArgumentFault

/-- What is wrong. -/
def what : ArgumentFault → String
  | .unexpected argument => s!"unexpected argument '{argument}' found"
  | .unknownFlag name _ _ => s!"unexpected argument '--{name}' found"
  | .repeated flag => s!"the argument '{flag.written}' cannot be used multiple times"
  | .unexpectedValue flag value _ =>
    s!"unexpected value '{value}' for '{flag.written}' found; no more were expected"

/-- What may have been meant. -/
def tip : ArgumentFault → String
  | .unknownFlag _ (some flag) _ =>
    s!"  tip: a similar argument exists: '{flag.written}'\n\n"
  | _ => ""

/-- The flags that the hint at the usage names: where a long form is at fault, those given
and the one in question. -/
def usageFlags : ArgumentFault → List Flag
  | .unexpected _ | .repeated _ => []
  | .unknownFlag _ none given => given
  | .unknownFlag _ (some flag) given => withFlag given flag
  | .unexpectedValue flag _ given => withFlag given flag

/-- The answer to refused arguments. -/
def message (p : Program) (fault : ArgumentFault) : String :=
  "error: " ++ fault.what ++ "\n\n" ++ fault.tip ++
    "Usage: " ++ p.usage fault.usageFlags ++ "\n\n" ++
    "For more information, try '--help'.\n"

end ArgumentFault
end LinkReport.CommandLine
