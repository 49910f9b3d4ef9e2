import LinkReport.Config
import LinkReport.Filter.Directive

/-!
# Filters

A filter is two sets of directives, each kept sorted from the most specific directive on:
the static ones, which decide about events, and the dynamic ones, which speak of spans. A
directive takes the place of an earlier one that differs from it in the level alone. A
directive that asks for nothing but the name of a field belongs to both sets.
-/

namespace LinkReport

/-- The directives of a filter, each set sorted from the most specific one on. -/
structure Filter where
  static : List Filter.Directive
  dynamic : List Filter.Directive
deriving DecidableEq, Repr

namespace Filter

/-- The sorted set with `d` in it, in place of a directive that differs in the level
alone. -/
def insertSorted (d : Directive) : List Directive → List Directive
  | [] => [d]
  | e :: es =>
    match d.compare e with
    | .gt => d :: e :: es
    | .eq => d :: es
    | .lt => e :: insertSorted d es

/-- The sorted set of directives in the list, a later one in place of an earlier one. -/
def sorted (ds : List Directive) : List Directive :=
  ds.foldl (fun set d => insertSorted d set) []

/-- The filter that directives make. -/
def ofDirectives (ds : List Directive) : Filter where
  static := sorted (ds.filter Directive.isStatic)
  dynamic := sorted (ds.filter Directive.isDynamic)

/-- The comma-separated parts of a filter text that are not empty. -/
def parts (cs : List Char) : List (List Char) :=
  (cs.splitOn ',').filter (· ≠ [])

/-- The filter that a text writes. The first faulty directive decides the fault. -/
def read (text : String) : Except Fault Filter :=
  ((parts text.toList).mapM Directive.read).map ofDirectives

/-- The text of a filter: the static directives and then the dynamic ones. -/
def shown (f : Filter) : String :=
  ",".intercalate ((f.static ++ f.dynamic).map Directive.shown)

/-- The filter that lets through what the default level lets through. -/
def default : Filter :=
  ofDirectives [⟨none, none, none, .warn⟩]

/-- The reading of a filter broke off, because a part of a directive would start or end
inside a character. -/
inductive Crash where
  | insideCharacter
deriving DecidableEq, Repr

/-- The wording of a crash. -/
def Crash.message : Crash → String
  | .insideCharacter => "a part of a filter directive starts or ends inside a character"

/-- The filter that a text writes; none if it is malformed. -/
def read? (text : String) : Except Crash (Option Filter) :=
  match read text with
  | .ok filter => .ok (some filter)
  | .error .malformed => .ok none
  | .error .insideCharacter => .error .insideCharacter

/-- The filter for a configuration: that of its filter text, or of its level if there is no
filter text or it is malformed, or the default one if the level is malformed too. -/
def ofConfig (c : Config) : Except Crash Filter := do
  let chosen ← match c.logFilter with
    | some text => read? text
    | none => .ok none
  match chosen with
  | some filter => .ok filter
  | none => do
    let level ← read? c.logLevel
    .ok (level.getD default)

end Filter
end LinkReport
