import LinkReport.Text.Hex

/-!
# Well-formed patterns

A field value that is no scalar is a regular expression. Nothing is matched here, so only
its form matters: groups and classes are closed, a repetition has something to repeat, and
a backslash is followed by a character that it can escape. The pattern is read from left
to right with the groups that are open.

Only a subset of regular expressions is known: characters and escapes, classes, alternatives,
groups that are numbered or marked with `?:`, and the repetitions `*`, `+` and `?`. A group with
flags or a name, as in `(?s)a` and `(?P<n>a)`, a counted repetition and a class with a name are
outside of it and count as malformed.
-/

namespace LinkReport.Filter.Pattern

/-- A character that a backslash turns into itself: ASCII, and neither a letter, a digit
nor an angle bracket. -/
def isEscapable (c : Char) : Bool :=
  c.toNat < 0x80 && !c.isAlphanum && c != '<' && c != '>'

/-- A letter that a backslash turns into a control character or a place in the text. -/
def isNamedEscape (c : Char) : Bool :=
  ['a', 'f', 't', 'n', 'r', 'v', 'A', 'z'].contains c

/-- The text after `count` hexadecimal digits that write the code point of a character. -/
def afterCodePoint? (count : Nat) (cs : List Char) : Option (List Char) :=
  let digits := cs.take count
  if digits.length = count ∧ ((Text.hexValue? digits).any fun n => n.isValidChar) then
    some (cs.drop count)
  else none

/-- The text after the character that stands after a backslash; none if it cannot. -/
def afterEscape? : List Char → Option (List Char)
  | 'x' :: rest => afterCodePoint? 2 rest
  | 'u' :: rest => afterCodePoint? 4 rest
  | 'U' :: rest => afterCodePoint? 8 rest
  | c :: rest => if isEscapable c || isNamedEscape c then some rest else none
  | [] => none

/-- A range of a class runs upwards. -/
def isRange (first last : Char) : Bool :=
  first ≤ last

/-- The text after the class whose items start here; none if the class is not closed or
holds a range that runs downwards. -/
def afterClassItems? : Nat → List Char → Option (List Char)
  | 0, _ => none
  | fuel + 1, cs =>
    match cs with
    | ']' :: rest => some rest
    | '[' :: rest => (afterClassItems? fuel rest).bind (afterClassItems? fuel)
    | '\\' :: rest => (afterEscape? rest).bind (afterClassItems? fuel)
    | a :: '-' :: b :: rest =>
      if b = ']' ∨ b = '\\' ∨ b = '[' ∨ b = '-' then afterClassItems? fuel ('-' :: b :: rest)
      else if isRange a b then afterClassItems? fuel rest
      else none
    | _ :: rest => afterClassItems? fuel rest
    | [] => none

/-- The text after a class, from its opening bracket on. A bracket right after the opening
one, or after its circumflex, stands for itself. -/
def afterClass? (cs : List Char) : Option (List Char) :=
  let items := match cs with
    | '^' :: rest => rest
    | rest => rest
  match items with
  | ']' :: rest => afterClassItems? (rest.length + 1) rest
  | items => afterClassItems? (items.length + 1) items

/-- The text after the marks at the start of a group, which keep it from being numbered. Flags
and names are outside of the subset. -/
def afterGroupStart? : List Char → Option (List Char)
  | '?' :: ':' :: rest => some rest
  | '?' :: _ => none
  | rest => some rest

/-- What a repetition would repeat, at a place in a pattern. -/
inductive Before where
  | nothing
  | something
deriving DecidableEq, Repr

/-- The rest of a pattern is well-formed where `depth` groups are open. Every step uses up
a character, so the length of the rest is fuel enough. -/
def wellFormedFrom : Nat → (depth : Nat) → Before → List Char → Bool
  | 0, _, _, _ => false
  | fuel + 1, depth, before, cs =>
    match cs with
    | [] => depth == 0
    | '(' :: rest =>
      match afterGroupStart? rest with
      | some rest => wellFormedFrom fuel (depth + 1) .nothing rest
      | none => false
    | ')' :: rest => 0 < depth && wellFormedFrom fuel (depth - 1) .something rest
    | '|' :: rest => wellFormedFrom fuel depth .nothing rest
    | '[' :: rest =>
      match afterClass? rest with
      | some rest => wellFormedFrom fuel depth .something rest
      | none => false
    | '\\' :: rest =>
      match afterEscape? rest with
      | some rest => wellFormedFrom fuel depth .something rest
      | none => false
    | '\x7b' :: _ => false
    | c :: rest =>
      if c = '*' ∨ c = '+' ∨ c = '?' then
        before == .something && wellFormedFrom fuel depth .something rest
      else wellFormedFrom fuel depth .something rest

/-- The pattern belongs to the subset and is well-formed. -/
def wellFormed (cs : List Char) : Bool :=
  wellFormedFrom (cs.length + 1) 0 .nothing cs

end LinkReport.Filter.Pattern
