import LinkReport.Json.Value
import LinkReport.Text.Hex

/-!
# Writing JSON on one line

Nothing is written between the tokens, and every character below U+0020 in a string is
escaped, so the text holds no line end. Entries are visited in order, each key before its
value, and the first key that is neither a string nor a scalar with a text ends the
writing.
-/

namespace LinkReport.Json

/-- A character inside a JSON string. -/
def escapeChar (c : Char) : List Char :=
  match c with
  | '"' => ['\\', '"']
  | '\\' => ['\\', '\\']
  | '\x08' => ['\\', 'b']
  | '\x0c' => ['\\', 'f']
  | '\n' => ['\\', 'n']
  | '\r' => ['\\', 'r']
  | '\t' => ['\\', 't']
  | _ =>
    if c.toNat < 0x10 then ['\\', 'u', '0', '0', '0'] ++ Text.hexDigits c.toNat
    else if c.toNat < 0x20 then ['\\', 'u', '0', '0'] ++ Text.hexDigits c.toNat
    else [c]

/-- A JSON string. -/
def writeString (cs : List Char) : List Char :=
  '"' :: cs.flatMap escapeChar ++ ['"']

/-- The decimal digits of a whole number after its sign. -/
def writeInteger (n : Int) : List Char :=
  (if n < 0 then ['-'] else []) ++ Nat.toDigits 10 n.natAbs

/-- A finite float, or `null`. -/
def writeFloat (x : Binary64) : List Char :=
  if x.isFinite then floatLayout.write x else "null".toList

/-- A truth value. -/
def writeBoolean (b : Bool) : List Char :=
  if b then "true".toList else "false".toList

namespace Value

/-- The text of a map key: a string is its own text, and a truth value or a finite number
is written as elsewhere. -/
def keyText : Value → Except KeyError (List Char)
  | .text s => .ok s.toList
  | .boolean b => .ok (writeBoolean b)
  | .integer n => .ok (writeInteger n)
  | .float x => if x.isFinite then .ok (floatLayout.write x) else .error .notFinite
  | .null | .list _ | .map _ => .error .notText

mutual

/-- The JSON text of a value. -/
def write : Value → Except KeyError (List Char)
  | .null => .ok "null".toList
  | .boolean b => .ok (writeBoolean b)
  | .integer n => .ok (writeInteger n)
  | .float x => .ok (writeFloat x)
  | .text s => .ok (writeString s.toList)
  | .list [] => .ok ['[', ']']
  | .list (v :: vs) => do
    let first ← v.write
    let rest ← writeItems vs
    .ok ('[' :: first ++ rest ++ [']'])
  | .map [] => .ok ['\x7b', '\x7d']
  | .map ((k, v) :: entries) => do
    let key ← k.keyText
    let value ← v.write
    let rest ← writeEntries entries
    .ok ('\x7b' :: writeString key ++ ':' :: value ++ rest ++ ['\x7d'])

/-- The items of a list after the first, each after a comma. -/
def writeItems : List Value → Except KeyError (List Char)
  | [] => .ok []
  | v :: vs => do
    let first ← v.write
    let rest ← writeItems vs
    .ok (',' :: first ++ rest)

/-- The entries of a map after the first, each after a comma. -/
def writeEntries : List (Value × Value) → Except KeyError (List Char)
  | [] => .ok []
  | (k, v) :: entries => do
    let key ← k.keyText
    let value ← v.write
    let rest ← writeEntries entries
    .ok (',' :: writeString key ++ ':' :: value ++ rest)

end

/-- The value as one line of JSON. -/
def toLine (v : Value) : Except KeyError String :=
  v.write.map String.ofList

end Value
end LinkReport.Json
