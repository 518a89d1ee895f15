/-!
The decimal with the fewest digits that still names a binary number. A number of 53 binary digits
stands for all reals that round to it; the decimals in that interval read back as it, and of those
with the fewest digits the nearest is taken. All comparisons are exact, on natural numbers.
-/
namespace DiskQuota.Decimal

/-- The power `b ^ e`, which is one where `e` is negative. -/
def power (b : Nat) (e : Int) : Nat := Nat.pow b e.toNat

/-- The positive number `mantissa · 2 ^ exponent`. -/
structure Binary where
  mantissa : Nat
  exponent : Int
  /-- Whether the next number below is half as far away as the next above. -/
  narrowBelow : Bool

/-- The magnitude of a finite float, from its bits. -/
def Binary.ofBits (bits : UInt64) : Binary :=
  let exponent := ((bits >>> 52) &&& 0x7FF).toNat
  let fraction := (bits &&& 0xFFFFFFFFFFFFF).toNat
  if exponent = 0 then ⟨fraction, -1074, false⟩
  else ⟨0x10000000000000 + fraction, exponent - 1075, fraction = 0 && 1 < exponent⟩

/-- A decimal `digits · 10 ^ exponent`. -/
structure Digits where
  digits : Nat
  exponent : Int
deriving DecidableEq, Repr

/-- The interval of a number on a decimal grid: its ends, the number itself and the grid's step, all
as multiples of one small unit. -/
structure OnGrid where
  low : Nat
  value : Nat
  high : Nat
  step : Nat
  /-- Whether the ends belong to the interval. -/
  closed : Bool

/-- The interval of `x` on the grid of multiples of `10 ^ k`. The unit is the quarter of a binary
place, made small enough to measure the step too. -/
def Binary.onGrid (x : Binary) (k : Int) : OnGrid :=
  let q := x.exponent - 2
  let scale := power 2 q * power 10 (-k)
  { low := (4 * x.mantissa - if x.narrowBelow then 1 else 2) * scale
    value := 4 * x.mantissa * scale
    high := (4 * x.mantissa + 2) * scale
    step := power 2 (-q) * power 10 k
    closed := x.mantissa % 2 == 0 }

namespace OnGrid

/-- Whether the multiple `n` of the step lies in the interval. -/
def contains (g : OnGrid) (n : Nat) : Bool :=
  if g.closed then g.low ≤ n * g.step && n * g.step ≤ g.high
  else g.low < n * g.step && n * g.step < g.high

/-- The two multiples of the step next to the number, the nearer first; of two equally near ones the
even one comes first. -/
def neighbours (g : OnGrid) : List Nat :=
  let below := g.value / g.step
  let rest := g.value % g.step
  if 2 * rest < g.step || (2 * rest == g.step && below % 2 == 0) then [below, below + 1]
  else [below + 1, below]

/-- The nearest multiple of the step in the interval. -/
def nearest? (g : OnGrid) : Option Nat := g.neighbours.find? g.contains

end OnGrid

/-- How many decimal digits `n` has; zero has one. -/
def digitCount (n : Nat) : Nat := (Nat.toDigits 10 n).length

/-- The place of the leading decimal digit: the `e` with `10 ^ e ≤ x < 10 ^ (e + 1)`. -/
def Binary.leading (x : Binary) : Int :=
  let num := x.mantissa * power 2 x.exponent
  let den := power 2 (-x.exponent)
  if den ≤ num then (digitCount (num / den) : Int) - 1
  else
    let n := digitCount (den / num)
    if den ≤ num * power 10 (n - 1) then 1 - (n : Int) else -(n : Int)

/-- The digits without the zeros at their end. -/
def stripZeros : (fuel : Nat) → Digits → Digits
  | 0, d => d
  | fuel + 1, d =>
    if d.digits ≠ 0 ∧ d.digits % 10 = 0 then stripZeros fuel ⟨d.digits / 10, d.exponent + 1⟩ else d

/-- The fewest digits that name `x`: the coarsest grid with a point in the interval. Seventeen digits
always name a float; past them the number is written out in full. -/
def Binary.shortest (x : Binary) : Digits :=
  let grids := (List.range 17).map fun (n : Nat) => x.leading - n
  let found := grids.findSome? fun k => (x.onGrid k).nearest?.map fun n => (⟨n, k⟩ : Digits)
  let d := found.getD
    ⟨x.mantissa * power 2 x.exponent * power 5 (-x.exponent), -(-x.exponent).toNat⟩
  stripZeros (digitCount d.digits) d

end DiskQuota.Decimal
