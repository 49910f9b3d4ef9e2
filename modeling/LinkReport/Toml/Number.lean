import LinkReport.Decimal.Numeral
import LinkReport.Text.Hex
import LinkReport.Toml.Token

/-!
# TOML numbers and moments

Integers fit in 64 bits, underscores stand between digits only, and a decimal has no
leading zeros. A float beyond the largest finite one is refused, unless it is negative. A
date is one of the Gregorian calendar, and a moment is kept as it is written.
-/

namespace LinkReport.Toml

/-- Digits of a kind with single underscores between them, after the first one, and the
text after them, without the underscores. -/
def moreDigits (isDigit : Char → Bool) : List Char → Option (List Char × List Char)
  | '_' :: c :: rest => if isDigit c then withChar c (moreDigits isDigit rest) else none
  | c :: rest =>
    if c = '_' then none
    else if isDigit c then withChar c (moreDigits isDigit rest)
    else some ([], c :: rest)
  | [] => some ([], [])

/-- At least one digit of a kind, with single underscores between digits. -/
def readDigits (isDigit : Char → Bool) : Reader (List Char)
  | c :: rest => if isDigit c then withChar c (moreDigits isDigit rest) else none
  | [] => none

/-- The digits of a decimal without leading zeros. -/
def readWhole : Reader (List Char)
  | '0' :: rest => some (['0'], rest)
  | rest => readDigits Char.isDigit rest

/-- The number that digits write in a base. -/
def valueIn (base : Nat) (cs : List Char) : Nat :=
  cs.foldl (fun n c => base * n + (Text.hexDigit? c).getD 0) 0

/-- An integer in a base other than ten, after the mark of its base. -/
def readBased (base : Nat) (cs : List Char) : Option (Int × List Char) := do
  let (ds, rest) ← readDigits (fun c => (Text.hexDigit? c).any (· < base)) cs
  let n : Int := valueIn base ds
  if Decimal.fitsSigned n then some (n, rest) else none

/-- An integer. -/
def readInteger : Reader Int
  | '0' :: 'x' :: rest => readBased 16 rest
  | '0' :: 'o' :: rest => readBased 8 rest
  | '0' :: 'b' :: rest => readBased 2 rest
  | cs => do
    let (negative, rest) := Decimal.readSign cs
    let (ds, rest) ← readWhole rest
    let n := Decimal.signed negative (Decimal.digitsValue 0 ds)
    if Decimal.fitsSigned n then some (n, rest) else none

/-- A decimal with a fraction or an exponent. -/
def readDecimalFloat (cs : List Char) : Option (Binary64 × List Char) := do
  let (negative, rest) := Decimal.readSign cs
  let (whole, rest) ← readWhole rest
  let (fraction, rest) ← Decimal.readFraction (readDigits Char.isDigit) rest
  let (exponent, rest) ← Decimal.readExponent (readDigits Char.isDigit) rest
  if fraction = [] ∧ exponent = none then none
  else
    let x := Decimal.ofParts negative whole fraction (exponent.getD 0)
    if x = .infinite false then none else some (x, rest)

/-- One of the words for infinity and for no number, with an optional sign. -/
def readSpecialFloat (cs : List Char) : Option (Binary64 × List Char) :=
  let (negative, rest) := Decimal.readSign cs
  match rest with
  | 'i' :: 'n' :: 'f' :: rest => some (.infinite negative, rest)
  | 'n' :: 'a' :: 'n' :: rest => some (.nan, rest)
  | _ => none

/-- A float. -/
def readFloat (cs : List Char) : Option (Binary64 × List Char) :=
  (readDecimalFloat cs).or (readSpecialFloat cs)

/-! ## Moments -/

/-- Exactly `n` decimal digits, as a number. -/
def readFixed (n : Nat) (cs : List Char) : Option (Nat × List Char) :=
  (Decimal.digits? (cs.take n)).bind fun value =>
    if (cs.take n).length = n then some (value, cs.drop n) else none

/-- Exactly two digits, as a number between two bounds. -/
def readBetween (low high : Nat) (cs : List Char) : Option (Nat × List Char) :=
  (readFixed 2 cs).bind fun (n, rest) => if low ≤ n ∧ n ≤ high then some (n, rest) else none

/-- The text after a character that must stand here. -/
def skipChar? (c : Char) : List Char → Option (List Char)
  | d :: rest => if c = d then some rest else none
  | [] => none

/-- The year has a 29th of February. -/
def isLeapYear (year : Nat) : Bool :=
  year % 4 == 0 && (year % 100 != 0 || year % 400 == 0)

/-- The number of days of a month. -/
def daysInMonth (year month : Nat) : Nat :=
  if month = 2 then if isLeapYear year then 29 else 28
  else if month = 4 ∨ month = 6 ∨ month = 9 ∨ month = 11 then 30
  else 31

/-- The text after a date. -/
def skipDate? (cs : List Char) : Option (List Char) := do
  let (year, rest) ← readFixed 4 cs
  let rest ← skipChar? '-' rest
  let (month, rest) ← readBetween 1 12 rest
  let rest ← skipChar? '-' rest
  let (day, rest) ← readBetween 1 31 rest
  if day ≤ daysInMonth year month then some rest else none

/-- The text after a fraction of a second, if there is one. -/
def skipSecondFraction? : List Char → Option (List Char)
  | '.' :: rest =>
    if (rest.takeWhile Char.isDigit).isEmpty then none else some (rest.dropWhile Char.isDigit)
  | rest => some rest

/-- The text after a time of day. A minute may have a leap second. -/
def skipTime? (cs : List Char) : Option (List Char) := do
  let (_, rest) ← readBetween 0 23 cs
  let rest ← skipChar? ':' rest
  let (_, rest) ← readBetween 0 59 rest
  let rest ← skipChar? ':' rest
  let (_, rest) ← readBetween 0 60 rest
  skipSecondFraction? rest

/-- The text after an offset from universal time. -/
def skipOffset? : List Char → Option (List Char)
  | c :: rest =>
    if c = 'Z' ∨ c = 'z' then some rest
    else if c = '+' ∨ c = '-' then do
      let (_, rest) ← readBetween 0 23 rest
      let rest ← skipChar? ':' rest
      let (_, rest) ← readBetween 0 59 rest
      some rest
    else none
  | [] => none

/-- The text after the time of day that may follow a date. -/
def skipTimeOfDate (cs : List Char) : List Char :=
  match cs with
  | c :: rest =>
    if c = 'T' ∨ c = 't' ∨ c = ' ' then
      match skipTime? rest with
      | some rest => (skipOffset? rest).getD rest
      | none => cs
    else cs
  | [] => []

/-- A date, a date with a time of day, or a time of day. -/
def readMoment (cs : List Char) : Option (String × List Char) :=
  (((skipDate? cs).map skipTimeOfDate).or (skipTime? cs)).map fun rest =>
    (String.ofList (cs.take (cs.length - rest.length)), rest)

end LinkReport.Toml
