import LinkReport.Toml.Statement

/-!
# TOML documents

The statements of a document are carried out in order. A header opens a table of its own
once, and may do so for a table that was only implied so far; a header in double brackets
adds a table to a list that such headers alone have made. Pairs go into the table that the
last header has opened.
-/

namespace LinkReport.Toml

/-- A document while its statements are carried out. -/
structure Draft where
  root : Table
  /-- The path of the table that the last header has opened. -/
  place : List String

namespace Draft

/-- The document without statements. -/
def start : Draft where
  root := .empty .header
  place := []

/-- Opens a table with a header of its own in the table it belongs to. -/
def openTable (key : String) (parent : Table) : Option Table :=
  match parent.get? key with
  | none => some (parent.put key (.table (.empty .header)))
  | some (.table t) =>
    if t.origin = .implied then some (parent.put key (.table t.withHeader)) else none
  | some _ => none

/-- Opens one more table of a list in the table that the list belongs to. -/
def openElement (key : String) (parent : Table) : Option Table :=
  match parent.get? key with
  | none => some (parent.put key (.tables [.empty .header]))
  | some (.tables ts) => some (parent.put key (.tables (ts ++ [.empty .header])))
  | some _ => none

/-- Carries out a header, which opens the last of its keys in the table that the others
lead to. -/
def openWith (opening : String → Table → Option Table) (d : Draft) (keys : List String) :
    Option Draft :=
  keys.getLast?.bind fun key =>
    (Table.change .implied (opening key) keys.dropLast d.root).map fun root =>
      { root, place := keys }

/-- Carries out a statement. -/
def step (d : Draft) : Statement → Option Draft
  | .pair keys v =>
    (Table.change .implied (·.define keys v) d.place d.root).map fun root => { d with root }
  | .table keys => d.openWith openTable keys
  | .tables keys => d.openWith openElement keys

end Draft

/-- The document that statements make. -/
def Table.ofStatements? (statements : List Statement) : Option Table :=
  (statements.foldlM Draft.step Draft.start).map Draft.root

/-- The text without a byte order mark. -/
def skipMark : List Char → List Char
  | '\ufeff' :: rest => rest
  | cs => cs

/-- The document that a text writes; none if any part of it is not valid. -/
def Table.read? (cs : List Char) : Option Table := do
  let cs := skipMark cs
  let statements ← readStatements (cs.length + 1) cs
  ofStatements? statements

end LinkReport.Toml
