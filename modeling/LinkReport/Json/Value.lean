import LinkReport.Decimal.Layout

/-!
# Values that can be written as JSON

A value is a tree of scalars, lists and maps. A map keeps its entries in order and may
repeat a key, and a key may be any value: which keys JSON can write is decided when the
value is written.
-/

namespace LinkReport.Json

/-- A tree of scalars, lists and maps. -/
inductive Value where
  | null
  | boolean (b : Bool)
  | integer (n : Int)
  | float (x : Binary64)
  | text (s : String)
  | list (items : List Value)
  | map (entries : List (Value × Value))
deriving Repr, Inhabited

/-- Why a map key cannot be written. -/
inductive KeyError where
  | notText
  | notFinite
deriving DecidableEq, Repr

/-- The wording of a key error. -/
def KeyError.message : KeyError → String
  | .notText => "key must be a string"
  | .notFinite => "float key must be finite (got NaN or +/-inf)"

/-- A float is written out between `1e-5` and `1e16`, keeps `.0`, and goes to the even
neighbour on a tie. -/
def floatLayout : Decimal.Layout where
  positional place := -5 < place && place ≤ 16
  pointZero := true
  tie := .even

end LinkReport.Json
