import LinkReport.Filter.Field
import LinkReport.Filter.Level
import LinkReport.Text.Alphanumeric
import LinkReport.Text.Blank
import LinkReport.Text.Bytes

/-!
# Directives

A directive is one of the comma-separated parts of a filter: `target[span{field}]=level`,
of which every part may be missing. The trimmed text is scanned by a small machine, which
notes byte offsets, and the parts are cut from the text as it was given, blanks before it
included. So a directive after a blank loses characters at the ends of its parts, and an
offset may fall inside a character, which is a fault of its own kind.
-/

namespace LinkReport.Filter

/-- What events a directive speaks of, and up to which level it lets them through. -/
structure Directive where
  target : Option String
  span : Option String
  field : Option Field
  level : Level
deriving DecidableEq, Repr

/-- What can go wrong when a filter is read. -/
inductive Fault where
  /-- The text is not a filter. -/
  | malformed
  /-- A part of a directive would start or end inside a character. -/
  | insideCharacter
deriving DecidableEq, Repr

/-- The directive that says nothing yet. -/
def Directive.blank : Directive where
  target := none
  span := none
  field := none
  level := .trace

/-- The state of the scan between two characters of a directive. The offsets say where the
part that is being read starts. -/
inductive Part where
  | start
  | levelOrTarget (offset : Nat)
  | span (offset : Nat)
  | field (offset : Nat)
  | afterField
  | afterSpan
  | level (offset : Nat)
deriving DecidableEq, Repr

/-- A directive may start with this character, if not with a bracket. -/
def isDirectiveStart (c : Char) : Bool :=
  c == '-' || c == ':' || c == '_' || Text.isAlphanumeric c

/-- The part of `source` between two byte offsets. -/
def cut (source : List Char) (first stop : Nat) : Except Fault (List Char) :=
  match Text.slice? first stop source with
  | some part => .ok part
  | none => .error .insideCharacter

/-- The part of `source` from a byte offset on. -/
def cutFrom (source : List Char) (first : Nat) : Except Fault (List Char) :=
  match Text.dropBytes? first source with
  | some part => .ok part
  | none => .error .insideCharacter

/-- The field that a part writes, which must not be empty. -/
def readField (part : List Char) : Except Fault Field :=
  if part = [] then .error .malformed
  else match Field.ofText? part with
    | some field => .ok field
    | none => .error .malformed

/-- Reads the character at byte `offset` of the trimmed text of `source`. -/
def Part.step (source : List Char) (d : Directive) (part : Part) (offset : Nat) (c : Char) :
    Except Fault (Directive × Part) :=
  match part with
  | .start =>
    if c = '[' then .ok (d, .span (offset + 1))
    else if isDirectiveStart c then .ok (d, .levelOrTarget offset)
    else .error .malformed
  | .levelOrTarget first => do
    if c = '=' then
      let target ← cut source first offset
      .ok ({ d with target := some (String.ofList target) }, .level (offset + 1))
    else if c = '[' then
      let target ← cut source first offset
      .ok ({ d with target := some (String.ofList target) }, .span (offset + 1))
    else .ok (d, part)
  | .span first => do
    if c = ']' then
      let span ← cut source first offset
      .ok ({ d with span := some (String.ofList span) }, .afterSpan)
    else if c = '\x7b' then
      let span ← cut source first offset
      let span := if span = [] then none else some (String.ofList span)
      .ok ({ d with span }, .field (offset + 1))
    else .ok (d, part)
  | .field first => do
    if c = '\x7d' then
      let text ← cut source first offset
      let field ← readField text
      .ok ({ d with field := some field }, .afterField)
    else .ok (d, part)
  | .afterField => if c = ']' then .ok (d, .afterSpan) else .error .malformed
  | .afterSpan => if c = '=' then .ok (d, .level (offset + 1)) else .error .malformed
  | .level _ => .ok (d, part)

/-- Scans the characters of the trimmed text from byte `offset` on. -/
def Part.run (source : List Char) (d : Directive) (part : Part) (offset : Nat) :
    List Char → Except Fault (Directive × Part)
  | [] => .ok (d, part)
  | c :: cs => do
    let (d, next) ← part.step source d offset c
    next.run source d (offset + c.utf8Size) cs

/-- The directive that has been read when the text ends in a state. A text that could be a
level is one, and is a target otherwise. -/
def Part.finish (source : List Char) (d : Directive) : Part → Except Fault Directive
  | .levelOrTarget first => do
    let text ← cutFrom source first
    match Level.ofText? text with
    | some l => .ok { d with target := none, level := l }
    | none => .ok { d with target := some (String.ofList text), level := .trace }
  | .level first => do
    let text ← cutFrom source first
    if text = [] then .ok { d with level := .trace }
    else match Level.ofText? text with
      | some l => .ok { d with level := l }
      | none => .error .malformed
  | .afterSpan => .ok d
  | .start | .span _ | .field _ | .afterField => .error .malformed

namespace Directive

/-- The directive that a text writes. The offsets are those of the trimmed text, and the
parts are cut from the untrimmed one. -/
def read (source : List Char) : Except Fault Directive := do
  let (d, part) ← Part.start.run source blank 0 (Text.trim source)
  part.finish source d

/-- The directive speaks of what happens inside a span. -/
def isDynamic (d : Directive) : Bool :=
  d.span.isSome || d.field.isSome

/-- The directive speaks of events as such: it names no span, and of a field at most the
name. -/
def isStatic (d : Directive) : Bool :=
  d.span.isNone && (d.field.all fun f => f.value.isNone)

/-- The length of the target in bytes. -/
def targetSize (d : Directive) : Option Nat :=
  d.target.map String.utf8ByteSize

/-- The order of the directives, from the least specific on: by the length of the target,
by having a span, by having a field, and then by the texts. Two directives that differ in
the level alone are the same in this order. -/
protected def compare (a b : Directive) : Ordering :=
  (Ord.compare a.targetSize b.targetSize)
    |>.then (Ord.compare a.span.isSome b.span.isSome)
    |>.then (Ord.compare a.field.isSome b.field.isSome)
    |>.then (Ord.compare a.target b.target)
    |>.then (Ord.compare a.span b.span)
    |>.then (Ord.compare a.field b.field)

/-- The directive as a filter shows it. -/
def shown (d : Directive) : String :=
  let field := match d.field with
    | some f => "\x7b" ++ f.shown ++ "\x7d"
    | none => ""
  let span := if d.isDynamic then "[" ++ d.span.getD "" ++ field ++ "]" else ""
  let scope := d.target.getD "" ++ span
  let equals := if d.target.isSome || d.isDynamic then "=" else ""
  scope ++ equals ++ d.level.name

end Directive
end LinkReport.Filter
