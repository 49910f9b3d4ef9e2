import LinkReport.Decimal.Layout
import LinkReport.Decimal.Numeral
import LinkReport.Filter.Pattern

/-!
# Fields of a directive

A directive may ask for a field, by its name and perhaps by its value. A value is read as
the first kind that fits: a truth value, an unsigned and then a signed 64-bit integer, a
float, and else a pattern. Values of different kinds are ordered by kind.
-/

namespace LinkReport.Filter

/-- The value that a directive asks a field to have. -/
inductive FieldValue where
  | boolean (b : Bool)
  | float (x : Binary64)
  | nan
  | unsigned (n : Nat)
  | signed (n : Int)
  | pattern (source : String)
deriving DecidableEq, Repr

namespace FieldValue

/-- The truth value that a text names, in lower case. -/
def boolean? (cs : List Char) : Option Bool :=
  if cs = "true".toList then some true
  else if cs = "false".toList then some false
  else none

/-- The unsigned 64-bit integer that a text writes. -/
def unsigned? (cs : List Char) : Option Nat :=
  (Decimal.natural? cs).bind fun n => if Decimal.fitsUnsigned n then some n else none

/-- The signed 64-bit integer that a text writes. -/
def signed? (cs : List Char) : Option Int :=
  (Decimal.integer? cs).bind fun n => if Decimal.fitsSigned n then some n else none

/-- The float that a text writes, as a value. -/
def float? (cs : List Char) : Option FieldValue :=
  (Decimal.float? cs).map fun
    | .nan => .nan
    | x => .float x

/-- The value that a text writes; none if it is no scalar and not a well-formed pattern. -/
def ofText? (cs : List Char) : Option FieldValue :=
  ((boolean? cs).map .boolean)
    |>.or ((unsigned? cs).map .unsigned)
    |>.or ((signed? cs).map .signed)
    |>.or (float? cs)
    |>.or (if Pattern.wellFormed cs then some (.pattern (String.ofList cs)) else none)

/-- The place of the kind of a value among the kinds. -/
def kind : FieldValue → Nat
  | .boolean _ => 0
  | .float _ => 1
  | .nan => 2
  | .unsigned _ => 3
  | .signed _ => 4
  | .pattern _ => 5

/-- Values are ordered by kind, and within a kind by what they are. The two zeros are the
same in this order. -/
protected def compare : FieldValue → FieldValue → Ordering
  | .boolean a, .boolean b => Ord.compare a b
  | .float a, .float b => Ord.compare a.place b.place
  | .unsigned a, .unsigned b => Ord.compare a b
  | .signed a, .signed b => Ord.compare a b
  | .pattern a, .pattern b => Ord.compare a b
  | a, b => Ord.compare a.kind b.kind

instance : Ord FieldValue := ⟨FieldValue.compare⟩

/-- A float is written out in full, and `.0` is left away. -/
def floatLayout : Decimal.Layout where
  positional _ := true
  pointZero := false
  tie := .up

/-- The value as a filter shows it. -/
def shown : FieldValue → String
  | .boolean b => if b then "true" else "false"
  | .float x => String.ofList (floatLayout.write x)
  | .nan => "NaN"
  | .unsigned n => String.ofList (Nat.toDigits 10 n)
  | .signed n => (if n < 0 then "-" else "") ++ String.ofList (Nat.toDigits 10 n.natAbs)
  | .pattern source => source

end FieldValue

/-- A field that a directive asks for. -/
structure Field where
  name : String
  value : Option FieldValue
deriving DecidableEq, Repr

namespace Field

/-- The text up to its first equals sign, and the text between that and the next one, if
there is one. -/
def split (cs : List Char) : List Char × Option (List Char) :=
  let name := cs.takeWhile (· != '=')
  match cs.dropWhile (· != '=') with
  | _ :: rest => (name, some (rest.takeWhile (· != '=')))
  | [] => (name, none)

/-- The field that a text asks for; none if its value is not well-formed. -/
def ofText? (cs : List Char) : Option Field :=
  match split cs with
  | (name, none) => some ⟨String.ofList name, none⟩
  | (name, some value) => (FieldValue.ofText? value).map fun v => ⟨String.ofList name, some v⟩

/-- A field with a value comes after one without; then the names decide, then the values. -/
protected def compare (a b : Field) : Ordering :=
  (Ord.compare a.value.isSome b.value.isSome)
    |>.then (Ord.compare a.name b.name)
    |>.then (Ord.compare a.value b.value)

instance : Ord Field := ⟨Field.compare⟩

/-- The field as a filter shows it. -/
def shown (f : Field) : String :=
  match f.value with
  | none => f.name
  | some value => f.name ++ "=" ++ value.shown

end Field
end LinkReport.Filter
