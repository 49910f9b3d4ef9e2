import LinkReport.Decimal.Binary64

/-!
# Reading decimal numerals

The parts of a decimal numeral, and the numerals of a filter text: whole numbers with an
optional sign, and floating point numbers in positional or exponent notation, with or
without digits before the point. Other formats have their own rules for digits, and share
the parts.
-/

namespace LinkReport.Decimal

/-! ## Parts of a numeral -/

/-- The number that a run of decimal digits writes, after `acc`. -/
def digitsValue (acc : Nat) (cs : List Char) : Nat :=
  cs.foldl (fun n c => 10 * n + (c.toNat - '0'.toNat)) acc

/-- The number of a numeral with these digits before and after the point. -/
def ofParts (negative : Bool) (whole fraction : List Char) (exponent : Int) : Binary64 :=
  .ofDecimal negative (digitsValue 0 (whole ++ fraction)) (exponent - fraction.length)

/-- A sign, if there is one: whether it is a minus, and the text after it. -/
def readSign : List Char → Bool × List Char
  | '-' :: rest => (true, rest)
  | '+' :: rest => (false, rest)
  | rest => (false, rest)

/-- The digits of a kind after a point, which must not stand alone; none if there is no
point. -/
def readFraction (readDigits : List Char → Option (List Char × List Char)) :
    List Char → Option (List Char × List Char)
  | '.' :: rest => readDigits rest
  | rest => some ([], rest)

/-- An exponent with digits of a kind, if there is one. -/
def readExponent (readDigits : List Char → Option (List Char × List Char)) :
    List Char → Option (Option Int × List Char)
  | c :: rest =>
    if c = 'e' ∨ c = 'E' then
      let (negative, rest) := readSign rest
      (readDigits rest).map fun (ds, rest) => (some (signed negative (digitsValue 0 ds)), rest)
    else some (none, c :: rest)
  | [] => some (none, [])

/-! ## Whole numbers -/

/-- The number that a nonempty run of decimal digits writes. -/
def digits? (cs : List Char) : Option Nat :=
  if cs ≠ [] ∧ cs.all Char.isDigit then some (digitsValue 0 cs) else none

/-- A whole number of digits with an optional plus sign. -/
def natural? : List Char → Option Nat
  | '+' :: cs => digits? cs
  | cs => digits? cs

/-- A whole number of digits with an optional sign. -/
def integer? (cs : List Char) : Option Int :=
  let (negative, rest) := readSign cs
  (digits? rest).map (signed negative)

/-- The number fits in 64 bits without a sign. -/
def fitsUnsigned (n : Nat) : Bool :=
  n < UInt64.size

/-- The number fits in 64 bits, of which one is the sign. -/
def fitsSigned (n : Int) : Bool :=
  -9223372036854775808 ≤ n && n ≤ 9223372036854775807

/-! ## Floating point numbers -/

/-- The texts agree but for the case of ASCII letters; `lower` is in lower case. -/
def isWord (lower : String) (cs : List Char) : Bool :=
  cs.map Char.toLower == lower.toList

/-- The digits after a point at the start of a text, and the text after them. -/
def splitFraction : List Char → List Char × List Char
  | '.' :: rest => (rest.takeWhile Char.isDigit, rest.dropWhile Char.isDigit)
  | rest => ([], rest)

/-- The exponent after a mantissa: none, or an `e` and a whole number with an optional
sign. -/
def exponent? : List Char → Option Int
  | [] => some 0
  | c :: cs => if c = 'e' ∨ c = 'E' then integer? cs else none

/-- A decimal without its sign: digits with at most one point among, before or after them,
and an exponent. -/
def unsignedFloat? (negative : Bool) (cs : List Char) : Option Binary64 :=
  let whole := cs.takeWhile Char.isDigit
  let (fraction, rest) := splitFraction (cs.dropWhile Char.isDigit)
  if whole ++ fraction = [] then none
  else (exponent? rest).map (ofParts negative whole fraction)

/-- A floating point number without its sign: one of the words for infinity and for no
number, in any case, or a decimal. -/
def magnitude? (negative : Bool) (cs : List Char) : Option Binary64 :=
  if isWord "inf" cs || isWord "infinity" cs then some (.infinite negative)
  else if isWord "nan" cs then some .nan
  else unsignedFloat? negative cs

/-- A floating point number with an optional sign. -/
def float? (cs : List Char) : Option Binary64 :=
  let (negative, rest) := readSign cs
  magnitude? negative rest

end LinkReport.Decimal
