/-!
# 64-bit floating point numbers

A finite number is kept as `± mantissa · 2 ^ scale` in units of the least positive one,
`2 ^ -1074`, so that every finite number is a whole number of units and comparing two of
them is comparing whole numbers. A decimal becomes the nearest of these numbers, and of
two at the same distance the one with the even mantissa.
-/

namespace LinkReport

/-- A whole number with a sign. -/
def Decimal.signed (negative : Bool) (n : Nat) : Int :=
  if negative then -n else n

/-- A 64-bit floating point number. The finite ones count units of `2 ^ -1074`. -/
inductive Binary64 where
  | finite (negative : Bool) (mantissa scale : Nat)
  | infinite (negative : Bool)
  | nan
deriving DecidableEq, Repr, Inhabited

namespace Binary64

/-- The number of mantissa bits. -/
def precision : Nat := 53

/-- Units of the least positive number in `1`, as a power of two. -/
def unitBits : Nat := 1074

/-- The scale of the largest finite numbers. -/
def maxScale : Nat := 2045

/-- Zero with a sign. -/
def zero (negative : Bool) : Binary64 :=
  .finite negative 0 0

/-- `num / den` rounded to a whole number, halves to the even neighbour. -/
def roundHalfEven (num den : Nat) : Nat :=
  let q := num / den
  let r := num % den
  if 2 * r < den then q
  else if 2 * r = den ∧ q % 2 = 0 then q
  else q + 1

/-- The number nearest to `± num / den`, for a positive `den`. -/
def ofRatio (negative : Bool) (num den : Nat) : Binary64 :=
  let units := num <<< unitBits
  let scale := (units / den).log2 + 1 - precision
  let mantissa := roundHalfEven units (den <<< scale)
  -- rounding up may carry into one bit too many
  let (mantissa, scale) :=
    if mantissa = 1 <<< precision then (1 <<< (precision - 1), scale + 1) else (mantissa, scale)
  if maxScale < scale then .infinite negative else .finite negative mantissa scale

/-- A decimal exponent from which on every number is beyond the largest finite one, and
below whose negative it is nearer to zero than to the least positive one. -/
def decimalReach : Int := 400

/-- The number nearest to `± digits · 10 ^ exponent`. The exponents that lead out of reach
are answered at once. -/
def ofDecimal (negative : Bool) (digits : Nat) (exponent : Int) : Binary64 :=
  let size := exponent + (Nat.toDigits 10 digits).length
  if digits = 0 then zero negative
  else if decimalReach < size then .infinite negative
  else if size < -decimalReach then zero negative
  else ofRatio negative (digits * Nat.pow 10 exponent.toNat) (Nat.pow 10 (-exponent).toNat)

/-- More units than any finite number has. -/
def beyond : Nat := 1 <<< 2200

/-- The place of a number on the line, with the infinities beyond all finite ones. The two
zeros share a place. -/
def place : Binary64 → Int
  | .finite negative mantissa scale => Decimal.signed negative (mantissa <<< scale)
  | .infinite negative => Decimal.signed negative beyond
  | .nan => 0

/-- The number is neither infinite nor not a number. -/
def isFinite : Binary64 → Bool
  | .finite .. => true
  | _ => false

end Binary64
end LinkReport
