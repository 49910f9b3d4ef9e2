import LinkReport.Json.Value
import LinkReport.Decimal.Numeral
import LinkReport.Text.Hex

/-!
# Reading JSON

A reader of RFC 8259 texts and of nothing else: no comments, no trailing commas, no
control characters inside strings, no leading zeros. Blanks may stand between tokens. The
whole text must be one value. A string must denote Unicode text, so an escaped surrogate
must stand in a pair.

A numeral without fraction and exponent is an integer if it fits in 64 bits, signed or
unsigned, and is not `-0`; every other numeral is a float.
-/

namespace LinkReport.Json

/-- A blank between tokens. -/
def isSpace (c : Char) : Bool :=
  c == ' ' || c == '\t' || c == '\n' || c == '\r'

/-- The text from the next token on. -/
def skipSpace (cs : List Char) : List Char :=
  cs.dropWhile isSpace

/-- The character that a short escape stands for. -/
def shortEscape? : Char → Option Char
  | '"' => some '"'
  | '\\' => some '\\'
  | '/' => some '/'
  | 'b' => some '\x08'
  | 'f' => some '\x0c'
  | 'n' => some '\n'
  | 'r' => some '\r'
  | 't' => some '\t'
  | _ => none

/-- The code units of a string up to its closing quote, and the text after it. A character
that stands for itself counts as one unit, whatever its size. -/
def stringUnits : List Char → Option (List Nat × List Char)
  | [] => none
  | '"' :: rest => some ([], rest)
  | '\\' :: 'u' :: a :: b :: c :: d :: rest => do
    let unit ← Text.hexValue? [a, b, c, d]
    let (units, rest) ← stringUnits rest
    some (unit :: units, rest)
  | '\\' :: e :: rest => do
    let c ← shortEscape? e
    let (units, rest) ← stringUnits rest
    some (c.toNat :: units, rest)
  | c :: rest =>
    if c.toNat < 0x20 || c == '\\' then none
    else (stringUnits rest).map fun (units, rest) => (c.toNat :: units, rest)

/-- A leading surrogate. -/
def isHighSurrogate (n : Nat) : Bool := 0xD800 ≤ n && n < 0xDC00

/-- A trailing surrogate. -/
def isLowSurrogate (n : Nat) : Bool := 0xDC00 ≤ n && n < 0xE000

/-- The characters that code units denote: a surrogate pair is one character, and a
surrogate outside a pair is none. -/
def unitsToChars? : List Nat → Option (List Char)
  | [] => some []
  | [n] => if isHighSurrogate n || isLowSurrogate n then none else some [Char.ofNat n]
  | n :: m :: rest =>
    if isHighSurrogate n && isLowSurrogate m then
      (unitsToChars? rest).map
        (Char.ofNat (0x10000 + (n - 0xD800) * 0x400 + (m - 0xDC00)) :: ·)
    else if isHighSurrogate n || isLowSurrogate n then none
    else (unitsToChars? (m :: rest)).map (Char.ofNat n :: ·)

/-- A string after its opening quote, and the text after its closing quote. -/
def readString (cs : List Char) : Option (String × List Char) := do
  let (units, rest) ← stringUnits cs
  let chars ← unitsToChars? units
  some (String.ofList chars, rest)

/-- The digits at the start of a text, at least one, and the text after them. -/
def readDigits (cs : List Char) : Option (List Char × List Char) :=
  let ds := cs.takeWhile Char.isDigit
  if ds = [] then none else some (ds, cs.dropWhile Char.isDigit)

/-- The value of a numeral without a fraction and an exponent. -/
def wholeNumber (negative : Bool) (n : Nat) : Value :=
  let integer := Decimal.signed negative n
  -- a negative zero has no integer
  let fits := if negative then 0 < n && Decimal.fitsSigned integer else Decimal.fitsUnsigned n
  if fits then .integer integer else .float (.ofDecimal negative n 0)

/-- A numeral, and the text after it. -/
def readNumber (cs : List Char) : Option (Value × List Char) := do
  let (negative, rest) := match cs with
    | '-' :: rest => (true, rest)
    | rest => (false, rest)
  let (whole, rest) ← readDigits rest
  if whole.head? = some '0' ∧ whole ≠ ['0'] then none
  else
    let (fraction, rest) ← Decimal.readFraction readDigits rest
    let (exponent, rest) ← Decimal.readExponent readDigits rest
    if fraction = [] ∧ exponent = none then
      some (wholeNumber negative (Decimal.digitsValue 0 whole), rest)
    else some (.float (Decimal.ofParts negative whole fraction (exponent.getD 0)), rest)

mutual

/-- A value at the start of a text, and the text after it. Every step of the reading uses
up a character, so the length of the text is fuel enough. -/
def readValue : Nat → List Char → Option (Value × List Char)
  | 0, _ => none
  | fuel + 1, cs =>
    match skipSpace cs with
    | 'n' :: 'u' :: 'l' :: 'l' :: rest => some (.null, rest)
    | 't' :: 'r' :: 'u' :: 'e' :: rest => some (.boolean true, rest)
    | 'f' :: 'a' :: 'l' :: 's' :: 'e' :: rest => some (.boolean false, rest)
    | '"' :: rest => (readString rest).map fun (s, rest) => (.text s, rest)
    | '[' :: rest =>
      match skipSpace rest with
      | ']' :: rest => some (.list [], rest)
      | _ => do
        let (v, rest) ← readValue fuel rest
        let (vs, rest) ← readItems fuel rest
        some (.list (v :: vs), rest)
    | '\x7b' :: rest =>
      match skipSpace rest with
      | '\x7d' :: rest => some (.map [], rest)
      | _ => do
        let (e, rest) ← readEntry fuel rest
        let (es, rest) ← readEntries fuel rest
        some (.map (e :: es), rest)
    | rest => readNumber rest

/-- The items of a list after one of them, and the text after the closing bracket. -/
def readItems : Nat → List Char → Option (List Value × List Char)
  | 0, _ => none
  | fuel + 1, cs =>
    match skipSpace cs with
    | ']' :: rest => some ([], rest)
    | ',' :: rest => do
      let (v, rest) ← readValue fuel rest
      let (vs, rest) ← readItems fuel rest
      some (v :: vs, rest)
    | _ => none

/-- A key, a colon and a value, and the text after them. -/
def readEntry : Nat → List Char → Option ((Value × Value) × List Char)
  | 0, _ => none
  | fuel + 1, cs =>
    match skipSpace cs with
    | '"' :: rest => do
      let (key, rest) ← readString rest
      match skipSpace rest with
      | ':' :: rest => do
        let (v, rest) ← readValue fuel rest
        some ((.text key, v), rest)
      | _ => none
    | _ => none

/-- The entries of a map after one of them, and the text after the closing brace. -/
def readEntries : Nat → List Char → Option (List (Value × Value) × List Char)
  | 0, _ => none
  | fuel + 1, cs =>
    match skipSpace cs with
    | '\x7d' :: rest => some ([], rest)
    | ',' :: rest => do
      let (e, rest) ← readEntry fuel rest
      let (es, rest) ← readEntries fuel rest
      some (e :: es, rest)
    | _ => none

end

/-- The value that a whole text writes. -/
def Value.read? (text : String) : Option Value := do
  let cs := text.toList
  let (v, rest) ← readValue (cs.length + 2) cs
  if skipSpace rest = [] then some v else none

end LinkReport.Json
