import LinkReport.CommandLine.Similarity

/-!
# Arguments

Two programs stand on the library, and each knows a few flags. The arguments are read from
left to right, and the first request for help or for the version, or the first fault,
decides. A flag that is almost a known one is answered with a tip.
-/

namespace LinkReport.CommandLine

/-- The programs. -/
inductive Program where
  /-- Shows the answers of the library. -/
  | demo
  /-- Checks the string that the library returns. -/
  | selfTest
deriving DecidableEq, Repr

/-- The flags of the programs. -/
inductive Flag where
  | json
  | showConfig
  | help
  | version
deriving DecidableEq, Repr

/-- The long form of a flag without its dashes. -/
def Flag.name : Flag → String
  | .json => "json"
  | .showConfig => "show-config"
  | .help => "help"
  | .version => "version"

/-- A flag as it is written. -/
def Flag.written (f : Flag) : String :=
  "--" ++ f.name

/-- The flag that a letter after a single dash stands for. -/
def Flag.ofLetter? : Char → Option Flag
  | 'h' => some .help
  | 'V' => some .version
  | _ => none

namespace Program

/-- The name of a program. -/
def name : Program → String
  | .demo => "cpp-example"
  | .selfTest => "test-cpp-example"

/-- The program of this name. -/
def ofName? (name : String) : Option Program :=
  [demo, selfTest].find? (·.name == name)

/-- The flags that a program knows. -/
def flags : Program → List Flag
  | .demo => [.json, .showConfig, .help, .version]
  | .selfTest => [.help, .version]

/-- The flag of a program with this long form. -/
def flag? (p : Program) (name : String) : Option Flag :=
  p.flags.find? (·.name == name)

end Program

/-- Why arguments are refused. The flags that were read before the fault are kept. -/
inductive ArgumentFault where
  /-- Neither a flag nor anything that could be meant for one. -/
  | unexpected (argument : String)
  /-- The long form of no flag, and the flag that is most like it. -/
  | unknownFlag (name : String) (similar : Option Flag) (given : List Flag)
  | repeated (flag : Flag)
  /-- A flag with a value. -/
  | unexpectedValue (flag : Flag) (value : String) (given : List Flag)
deriving DecidableEq, Repr

/-- What the arguments ask for. -/
inductive Request where
  /-- To do the program's work, with these flags. -/
  | work (given : List Flag)
  | help
  | version
  | refused (fault : ArgumentFault)
deriving DecidableEq, Repr

/-- An argument, by its form. -/
inductive Argument where
  /-- Two dashes alone. -/
  | separator
  /-- A name after two dashes, and what stands after an equals sign. -/
  | long (name : String) (value : Option String)
  /-- A letter after one dash; letters after it do not matter. -/
  | short (letter : Char)
  /-- Anything else. -/
  | positional (text : String)
deriving DecidableEq, Repr

/-- The form of an argument. -/
def Argument.ofText (text : String) : Argument :=
  match text.toList with
  | ['-', '-'] => .separator
  | '-' :: '-' :: rest =>
    let name := String.ofList (rest.takeWhile (· != '='))
    match rest.dropWhile (· != '=') with
    | _ :: value => .long name (some (String.ofList value))
    | [] => .long name none
  | '-' :: letter :: _ => .short letter
  | _ => .positional text

/-- What a known flag leads to: an answer, or one more flag that is given. -/
def Flag.meet (given : List Flag) : Flag → Except Request (List Flag)
  | .help => .error .help
  | .version => .error .version
  | flag =>
    if given.contains flag then .error (.refused (.repeated flag)) else .ok (given ++ [flag])

/-- Reads one argument before a separator: the flags that are given after it, or the answer
that it leads to. -/
def Argument.meet (p : Program) (given : List Flag) :
    Argument → Except Request (List Flag)
  | .separator => .ok given
  | .long name value =>
    match p.flag? name, value with
    | some flag, none => flag.meet given
    | some flag, some value => .error (.refused (.unexpectedValue flag value given))
    | none, _ =>
      let similar := (Similarity.closest? name.toList (p.flags.map Flag.name)).bind p.flag?
      .error (.refused (.unknownFlag name similar given))
  | .short letter =>
    match Flag.ofLetter? letter with
    | some flag => flag.meet given
    | none => .error (.refused (.unexpected (String.ofList ['-', letter])))
  | .positional text => .error (.refused (.unexpected text))

/-- What the arguments ask for when some flags are given already. Nothing may follow a
separator. -/
def readFrom (p : Program) (given : List Flag) : List String → Request
  | [] => .work given
  | text :: rest =>
    match Argument.ofText text with
    | .separator =>
      match rest with
      | [] => .work given
      | next :: _ => .refused (.unexpected next)
    | argument =>
      match argument.meet p given with
      | .ok given => readFrom p given rest
      | .error request => request

/-- What the arguments of a program ask for. -/
def Program.read (p : Program) (arguments : List String) : Request :=
  readFrom p [] arguments

end LinkReport.CommandLine
