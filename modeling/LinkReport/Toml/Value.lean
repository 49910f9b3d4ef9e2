import LinkReport.Decimal.Binary64

/-!
# TOML values and tables

A document is a table: keys with items in the order of their definition. An item is a
value, a table with a header or a part of a dotted key, or the tables that one header in
double brackets has opened again and again. How a table came to be decides what may still
be added to it.
-/

namespace LinkReport.Toml

/-- How a table came to be. -/
inductive Origin where
  /-- By a header of its own, as an inline table, or as the document. -/
  | header
  /-- By the header of a table inside it. -/
  | implied
  /-- By a dotted key. -/
  | dotted
deriving DecidableEq, Repr, Inhabited

mutual

/-- A value on the right of an equals sign. -/
inductive Value where
  | text (s : String)
  | integer (n : Int)
  | float (x : Binary64)
  | boolean (b : Bool)
  /-- A date, a time of day, or both. -/
  | moment (written : String)
  | array (items : List Value)
  | inline (t : Table)

/-- What a key stands for. -/
inductive Item where
  | value (v : Value)
  | table (t : Table)
  | tables (ts : List Table)

/-- Keys and their items, in the order of definition. -/
inductive Table where
  | mk (origin : Origin) (entries : List (String × Item))

end

namespace Table

/-- How the table came to be. -/
def origin : Table → Origin
  | .mk origin _ => origin

/-- The keys of the table with their items. -/
def entries : Table → List (String × Item)
  | .mk _ entries => entries

/-- A table without keys. -/
def empty (origin : Origin) : Table :=
  .mk origin []

/-- The item of a key. -/
def get? (t : Table) (key : String) : Option Item :=
  t.entries.lookup key

/-- Puts an item in the place of that of the same key, if there is one, or at the end. -/
def putEntry (key : String) (item : Item) : List (String × Item) → List (String × Item)
  | [] => [(key, item)]
  | (k, i) :: rest => if k = key then (k, item) :: rest else (k, i) :: putEntry key item rest

/-- The table with an item for a key. -/
def put (t : Table) (key : String) (item : Item) : Table :=
  .mk t.origin (putEntry key item t.entries)

/-- The table as one with a header of its own. -/
def withHeader (t : Table) : Table :=
  .mk .header t.entries

instance : Inhabited Table := ⟨.empty .header⟩

end Table

/-- The text that an item is. -/
def Item.text? : Item → Option String
  | .value (.text s) => some s
  | _ => none

/-- The table that a value is. -/
def Value.table? : Value → Option Table
  | .inline t => some t
  | _ => none

/-- The tables in a list of tables or values; none if the item is no list. -/
def Item.tables? : Item → Option (List Table)
  | .tables ts => some ts
  | .value (.array items) => some (items.filterMap Value.table?)
  | _ => none

end LinkReport.Toml
