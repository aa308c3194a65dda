import DialectIR.Decimal.Binary

/-!
# Shortest decimals

The decimal with the fewest digits in a rounding interval, and of those the one nearest
to the value of the interval; of two equally near ones, the larger.

A decimal with `n` digits is a point of the grid whose step is `n` places below the
leading digit of the value.  If the interval holds a point of that grid then it holds one
of the value's two neighbours on the grid, so it suffices to try those, grid by grid.
-/

namespace DialectIR

/-- The number `digits * 10 ^ exponent`. -/
structure Decimal where
  digits : Nat
  exponent : Int
  deriving DecidableEq, Repr

namespace Decimal

/-- The number of decimal digits of a positive number. -/
def digitCount (n : Nat) : Nat :=
  (Nat.toDigits 10 n).length

/-- The decimal with its trailing zeros moved into the exponent; `fuel` bounds their
number. -/
def strip : Nat → Decimal → Decimal
  | 0, d => d
  | fuel + 1, d =>
    if d.digits % 10 = 0 then strip fuel ⟨d.digits / 10, d.exponent + 1⟩ else d

end Decimal

namespace RoundingInterval

/-- The `k` with `10 ^ (k - 1) ≤ value < 10 ^ k`. -/
def magnitude (i : RoundingInterval) : Int :=
  if i.scale ≤ i.value then
    Decimal.digitCount (i.value / i.scale)
  else
    1 - Decimal.digitCount ((i.scale - 1) / i.value)

/-- Whether the interval holds the point `step * n`, where `step` and the ends are
numerators over one denominator. -/
def holds (i : RoundingInterval) (widen step n : Nat) : Bool :=
  if i.closed then
    i.low * widen ≤ n * step && n * step ≤ i.high * widen
  else
    i.low * widen < n * step && n * step < i.high * widen

/-- The point nearest to the value among its neighbours on the grid of the multiples of
`10 ^ exponent` that lie in the interval. -/
def onGrid? (i : RoundingInterval) (exponent : Int) : Option Decimal :=
  let step := i.scale * Nat.pow 10 exponent.toNat
  let widen := Nat.pow 10 (-exponent).toNat
  let value := i.value * widen
  let below := value / step
  let rest := value % step
  match i.holds widen step below, i.holds widen step (below + 1) with
  | true, true => some ⟨if step ≤ 2 * rest then below + 1 else below, exponent⟩
  | true, false => some ⟨below, exponent⟩
  | false, true => some ⟨below + 1, exponent⟩
  | false, false => none

/-- The largest number of digits that a decimal needs to lie in the interval of a word of
at most 64 bits. -/
def digitLimit : Nat := 17

/-- The shortest decimal of the interval. -/
def shortest (i : RoundingInterval) : Decimal :=
  let k := i.magnitude
  let grids := (List.range digitLimit).map fun (n : Nat) => k - (n + 1)
  let found := (grids.findSome? i.onGrid?).getD ⟨0, 0⟩
  found.strip digitLimit

end RoundingInterval

end DialectIR
