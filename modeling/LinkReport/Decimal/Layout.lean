import LinkReport.Decimal.Shortest

/-!
# Writing floating point numbers

A number is written with the digits of its shortest decimal. A `Layout` says where the
point goes: which magnitudes are written out and which with an exponent, and whether a
whole number keeps a point.
-/

namespace LinkReport.Decimal

/-- How the digits of a number are laid out. -/
structure Layout where
  /-- The number `0.d₁d₂… · 10 ^ place` is written out, without an exponent. -/
  positional : (place : Int) → Bool
  /-- A whole number that is written out ends in `.0`. -/
  pointZero : Bool
  /-- The choice between two shortest decimals at the same distance. -/
  tie : Tie

namespace Layout

/-- The decimal digits of `n`. -/
def digits (n : Nat) : List Char :=
  Nat.toDigits 10 n

/-- `0.d₁d₂… · 10 ^ place` written out. -/
def writtenOut (l : Layout) (ds : List Char) (place : Int) : List Char :=
  if place ≤ 0 then
    ['0', '.'] ++ List.replicate (-place).toNat '0' ++ ds
  else if ds.length ≤ place.toNat then
    ds ++ List.replicate (place.toNat - ds.length) '0' ++ if l.pointZero then ['.', '0'] else []
  else
    ds.take place.toNat ++ '.' :: ds.drop place.toNat

/-- `0.d₁d₂… · 10 ^ place` with one digit before the point, and a signed exponent. -/
def scientific (ds : List Char) (place : Int) : List Char :=
  let exponent := place - 1
  let fraction := if ds.length ≤ 1 then [] else '.' :: ds.drop 1
  ds.take 1 ++ fraction ++
    ['e', if exponent < 0 then '-' else '+'] ++ digits exponent.natAbs

/-- The number without its sign. -/
def magnitude (l : Layout) (mantissa scale : Nat) : List Char :=
  if mantissa = 0 then l.writtenOut ['0'] 1
  else
    let s := Shortest.ofFinite l.tie mantissa scale
    let ds := digits s.digits
    let place := ds.length + s.exponent
    if l.positional place then l.writtenOut ds place else scientific ds place

/-- The text of a number. Zero keeps its sign, and no number has none. -/
def write (l : Layout) : Binary64 → List Char
  | .nan => "NaN".toList
  | .infinite negative => (if negative then ['-'] else []) ++ "inf".toList
  | .finite negative mantissa scale =>
    (if negative then ['-'] else []) ++ l.magnitude mantissa scale

end Layout
end LinkReport.Decimal
