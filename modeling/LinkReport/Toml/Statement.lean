import LinkReport.Toml.Number
import LinkReport.Toml.Value

/-!
# TOML values and statements

A document is a sequence of lines, each of which gives a key a value, opens a table or
opens one more of the tables of a list. Here the lines are read; what they make of the
document is said elsewhere.
-/

namespace LinkReport.Toml

namespace Table

/-- Changes the table that `path` leads to, where tables that are missing are made with an
origin. A list of tables leads on to its last one. A dotted key must not lead into a table
that has a header of its own. -/
def change (missing : Origin) (f : Table → Option Table) : List String → Table → Option Table
  | [], t => f t
  | key :: path, t =>
    match t.get? key with
    | none => (change missing f path (.empty missing)).map fun u => t.put key (.table u)
    | some (.value _) => none
    | some (.table u) =>
      if missing = .dotted ∧ u.origin = .header then none
      else (change missing f path u).map fun u => t.put key (.table u)
    | some (.tables us) =>
      match us.getLast? with
      | none => none
      | some u => (change missing f path u).map fun u => t.put key (.tables (us.dropLast ++ [u]))

/-- Gives a dotted key a value. Only a table that a dotted key made can be added to by a
dotted key, and no key is given a value twice. -/
def define (t : Table) (keys : List String) (v : Value) : Option Table :=
  let path := keys.dropLast
  keys.getLast?.bind fun key =>
    change .dotted (fun u =>
      if path ≠ [] ∧ u.origin ≠ .dotted then none
      else match u.get? key with
        | some _ => none
        | none => some (u.put key (.value v))) path t

/-- The inline table that pairs of keys and values make. -/
def ofPairs? (pairs : List (List String × Value)) : Option Table :=
  pairs.foldlM (fun t pair => t.define pair.1 pair.2) (.empty .header)

end Table

/-! ## Values -/

/-- The items of an array after its opening bracket: line ends and comments may stand
anywhere between them, and a comma after the last one. Every item uses up a character, so
the length of the text is fuel enough. -/
def readItems (read : Reader Value) : Nat → Reader (List Value)
  | 0, _ => none
  | fuel + 1, cs =>
    match skipFiller false cs with
    | ']' :: rest => some ([], rest)
    | cs => do
      let (v, rest) ← read cs
      match skipFiller false rest with
      | ']' :: rest => some ([v], rest)
      | ',' :: rest => do
        let (vs, rest) ← readItems read fuel rest
        some (v :: vs, rest)
      | _ => none

/-- A key, an equals sign and a value. -/
def readPair (read : Reader Value) (cs : List Char) :
    Option ((List String × Value) × List Char) := do
  let (keys, rest) ← readKey cs
  match rest with
  | '=' :: rest => do
    let (v, rest) ← read (skipBlanks rest)
    some ((keys, v), rest)
  | _ => none

/-- The pairs of an inline table, at least one, and the text after the closing brace. -/
def readPairs (read : Reader Value) : Nat → Reader (List (List String × Value))
  | 0, _ => none
  | fuel + 1, cs => do
    let (pair, rest) ← readPair read cs
    match skipBlanks rest with
    | '\x7d' :: rest => some ([pair], rest)
    | ',' :: rest => do
      let (pairs, rest) ← readPairs read fuel rest
      some (pair :: pairs, rest)
    | _ => none

/-- An inline table, after its opening brace. -/
def readInline (read : Reader Value) (cs : List Char) : Option (Table × List Char) :=
  match skipBlanks cs with
  | '\x7d' :: rest => some (.empty .header, rest)
  | cs => do
    let (pairs, rest) ← readPairs read (cs.length + 1) cs
    let t ← Table.ofPairs? pairs
    some (t, rest)

/-- A number or a moment. -/
def readScalar (cs : List Char) : Option (Value × List Char) :=
  ((readMoment cs).map fun (s, rest) => (.moment s, rest))
    |>.or ((readFloat cs).map fun (x, rest) => (.float x, rest))
    |>.or ((readInteger cs).map fun (n, rest) => (.integer n, rest))

/-- A value in which arrays and inline tables nest at most `depth` deep. -/
def readValue (depth : Nat) (cs : List Char) : Option (Value × List Char) :=
  match depth, cs with
  | _, '"' :: _ | _, '\'' :: _ =>
    (readString cs).map fun (s, rest) => (.text (String.ofList s), rest)
  | _, 't' :: 'r' :: 'u' :: 'e' :: rest => some (.boolean true, rest)
  | _, 'f' :: 'a' :: 'l' :: 's' :: 'e' :: rest => some (.boolean false, rest)
  | 0, '[' :: _ | 0, '\x7b' :: _ => none
  | depth + 1, '[' :: rest =>
    (readItems (readValue depth) (rest.length + 1) rest).map fun (vs, rest) => (.array vs, rest)
  | depth + 1, '\x7b' :: rest =>
    (readInline (readValue depth) rest).map fun (t, rest) => (.inline t, rest)
  | _, cs => readScalar cs

/-! ## Statements -/

/-- What a line of a document says. -/
inductive Statement where
  /-- Gives a key a value. -/
  | pair (keys : List String) (v : Value)
  /-- Opens a table. -/
  | table (keys : List String)
  /-- Opens one more table of a list. -/
  | tables (keys : List String)

/-- The statement at the start of a line, and the text after the line. -/
def readStatement (cs : List Char) : Option (Statement × List Char) :=
  match cs with
  | '[' :: '[' :: rest => do
    let (keys, rest) ← readKey rest
    match rest with
    | ']' :: ']' :: rest => (skipRestOfLine? rest).map fun rest => (.tables keys, rest)
    | _ => none
  | '[' :: rest => do
    let (keys, rest) ← readKey rest
    match rest with
    | ']' :: rest => (skipRestOfLine? rest).map fun rest => (.table keys, rest)
    | _ => none
  | cs => do
    let ((keys, v), rest) ← readPair (readValue (nestingLimit - 1)) cs
    (skipRestOfLine? rest).map fun rest => (.pair keys v, rest)

/-- The statements of a document. Every line uses up a character, so the length of the text
is fuel enough. -/
def readStatements : Nat → List Char → Option (List Statement)
  | 0, _ => none
  | fuel + 1, cs =>
    match skipBlanks cs with
    | [] => some []
    | '\n' :: rest => readStatements fuel rest
    | '\r' :: '\n' :: rest => readStatements fuel rest
    | '#' :: rest => (skipRestOfLine? ('#' :: rest)).bind (readStatements fuel)
    | cs => do
      let (s, rest) ← readStatement cs
      let ss ← readStatements fuel rest
      some (s :: ss)

end LinkReport.Toml
