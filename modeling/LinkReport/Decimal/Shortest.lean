import LinkReport.Decimal.Binary64

/-!
# The shortest decimal that reads back

The reals nearer to a finite number than to any other form an interval around it, whose
ends belong to it when the mantissa is even. Of the grids of whole multiples of a power of
ten, the coarsest with a point in the interval gives the fewest digits, and of its points
the nearest to the number is taken. All comparisons are between whole numbers, in units of
a quarter of the least positive number times `10 ^ -324`, on whose grid every interval has
a point.
-/

namespace LinkReport.Decimal

/-- What becomes of a number half way between two grid points that both read back. -/
inductive Tie where
  | even
  | up
deriving DecidableEq, Repr

/-- A positive decimal `digits · 10 ^ exponent`. -/
structure Shortest where
  digits : Nat
  exponent : Int
deriving DecidableEq, Repr

namespace Shortest

/-- The exponent of the finest grid, negated. -/
def finest : Nat := 324

/-- Grids from the finest one up to the coarsest that is tried. -/
def grids : Nat := 640

/-- The interval of reals that round to a number, with the number itself. -/
structure Interval where
  low : Nat
  value : Nat
  high : Nat
  /-- The ends belong to the interval. -/
  closed : Bool

/-- The reals that round to `mantissa · 2 ^ scale`. Below a power of two the neighbours
are half as far apart. -/
def interval (mantissa scale : Nat) : Interval :=
  let unit := Nat.pow 10 finest
  let value := (4 * mantissa) <<< scale
  let below := if mantissa = 1 <<< (Binary64.precision - 1) ∧ 0 < scale then 1 else 2
  { low := (value - below <<< scale) * unit
    value := value * unit
    high := (value + 2 <<< scale) * unit
    closed := mantissa % 2 == 0 }

/-- The point lies in the interval. -/
def Interval.contains (i : Interval) (point : Nat) : Bool :=
  if i.closed then i.low ≤ point && point ≤ i.high else i.low < point && point < i.high

/-- The multiple of `step` in the interval that is nearest to its number. -/
def Interval.multiple? (tie : Tie) (i : Interval) (step : Nat) : Option Nat :=
  let below := i.value / step
  let above := below + 1
  match i.contains (below * step), i.contains (above * step) with
  | false, false => none
  | true, false => some below
  | false, true => some above
  | true, true =>
    let down := i.value - below * step
    let up := above * step - i.value
    if down < up then some below
    else if up < down then some above
    else match tie with
      | .even => some (if below % 2 = 0 then below else above)
      | .up => some above

/-- The coarsest of the grids of `10 ^ 0` to `10 ^ n` times `unit` that has a point in the
interval, and the number of steps to its nearest point. -/
def coarsest (tie : Tie) (i : Interval) (unit : Nat) : Nat → Nat × Nat
  | 0 => ((i.multiple? tie unit).getD (i.value / unit), 0)
  | n + 1 =>
    match i.multiple? tie (Nat.pow 10 (n + 1) * unit) with
    | some steps => (steps, n + 1)
    | none => coarsest tie i unit n

/-- The shortest decimal that reads back as `mantissa · 2 ^ scale`, and of those the
nearest. -/
def ofFinite (tie : Tie) (mantissa scale : Nat) : Shortest :=
  let i := interval mantissa scale
  let unit := 1 <<< (Binary64.unitBits + 2)
  let (digits, grid) := coarsest tie i unit grids
  { digits, exponent := (grid : Int) - finest }

end Shortest
end LinkReport.Decimal
