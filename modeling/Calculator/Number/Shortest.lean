import Calculator.Number.Binary

/-!
# Shortest decimal notation

A binary number is written with the fewest decimal digits from which it is read back. It owns an
interval of reals: those that are nearer to it than to its neighbours, and the two middles if its
significand is even, as ties are read. The coarsest decimal grid with a point in that interval
gives the digits; of two such points the nearer is taken, and the upper one of a tie. The text
never has an exponent.
-/

namespace Calculator.Binary

/-- The reals that are read as one positive number, in units of a quarter of its last binary
place. -/
structure Interval where
  low : Nat
  value : Nat
  high : Nat
  /-- Whether both ends belong to the interval. -/
  closed : Bool
  /-- The power of two that is one unit. -/
  unit : Int

/-- Whether the neighbour below is half as far as the one above, as it is at powers of two with
more than the least exponent. -/
def hasNearNeighbour (format : Format) (significand : Nat) (exponent : Int) : Bool :=
  decide (significand = Nat.pow 2 format.fractionBits ∧ format.minExponent < exponent)

/-- The interval of a positive number. -/
def Interval.of (format : Format) (significand : Nat) (exponent : Int) : Interval where
  low := 4 * significand - if hasNearNeighbour format significand exponent then 1 else 2
  value := 4 * significand
  high := 4 * significand + 2
  closed := significand % 2 = 0
  unit := exponent - 2

namespace Interval

/-- The factor that makes multiples of the interval's unit whole on the grid of `10 ^ place`. -/
def scale (interval : Interval) (place : Int) : Nat :=
  Nat.pow 2 interval.unit.toNat * Nat.pow 10 (-place).toNat

/-- One step of the grid of `10 ^ place` in the same measure. -/
def step (interval : Interval) (place : Int) : Nat :=
  Nat.pow 2 (-interval.unit).toNat * Nat.pow 10 place.toNat

/-- Whether the grid point `n * 10 ^ place` lies in the interval. -/
def owns (interval : Interval) (place : Int) (n : Nat) : Bool :=
  let low := interval.low * interval.scale place
  let point := n * interval.step place
  let high := interval.high * interval.scale place
  if interval.closed then low ≤ point ∧ point ≤ high else low < point ∧ point < high

/-- The multiple of `10 ^ place` in the interval that is nearest to the interval's number. -/
def nearest? (interval : Interval) (place : Int) : Option Nat :=
  let value := interval.value * interval.scale place
  let step := interval.step place
  let below := value / step
  match interval.owns place below, interval.owns place (below + 1) with
  | true, true => if 2 * (value % step) < step then some below else some (below + 1)
  | true, false => some below
  | false, true => some (below + 1)
  | false, false => none

/-- A power of ten above the interval's number, from where the coarsest grid is looked for. -/
def topPlace (interval : Interval) : Int :=
  let whole := interval.value * Nat.pow 2 interval.unit.toNat / Nat.pow 2 (-interval.unit).toNat
  if whole = 0 then
    2 - (Nat.toDigits 10 (Nat.pow 2 (-interval.unit).toNat / interval.value)).length
  else (Nat.toDigits 10 whole).length

/-- The first grid from `place` down that has a point in the interval, and that point. If none of
the grids before the last one has a point, the last one has the number itself. -/
def search (interval : Interval) (place : Int) : Nat → Nat × Int
  | 0 => (interval.value * interval.scale place / interval.step place, place)
  | fuel + 1 =>
    match interval.nearest? place with
    | some n => (n, place)
    | none => search interval (place - 1) fuel

/-- The decimal `n * 10 ^ place` with the fewest digits in the interval. The number itself is a
multiple of `10 ^ unit` if the unit's exponent is negative and whole otherwise, so the search ends
there at the latest. -/
def shortest (interval : Interval) : Nat × Int :=
  let top := interval.topPlace
  interval.search top (top - min interval.unit 0).toNat

end Interval

/-- The decimal `digits * 10 ^ place` without an exponent. -/
def positional (digits : List Char) (place : Int) : List Char :=
  if 0 ≤ place then digits ++ List.replicate place.toNat '0'
  else
    let fraction := (-place).toNat
    if fraction < digits.length then
      let whole := digits.length - fraction
      digits.take whole ++ '.' :: digits.drop whole
    else '0' :: '.' :: List.replicate (fraction - digits.length) '0' ++ digits

/-- The text of a number without its sign. -/
def magnitudeText (format : Format) (significand : Nat) (exponent : Int) : String :=
  if significand = 0 then "0"
  else
    let (n, place) := (Interval.of format significand exponent).shortest
    String.ofList (positional (Nat.toDigits 10 n) place)

/-- The text of a number. -/
def text (format : Format) : Binary → String
  | nan => "NaN"
  | infinite negative => if negative then "-inf" else "inf"
  | finite negative significand exponent =>
    (if negative then "-" else "") ++ magnitudeText format significand exponent

end Calculator.Binary
