/-
  The numbers that JSON literals denote.

  An integer literal that fits 64 bits is an integer, except `-0`.  Every other
  literal is a double precision number, computed in one pass: as many leading
  digits as fit 64 bits are the significand, the others only move the decimal
  point, and the significand is then multiplied or divided by a power of ten.
  Since both steps round, the result is near the literal but not always the
  nearest number.  A literal beyond the largest number is out of range.

  * `ofDecimal?` is the number of a literal, `none` out of range;
  * `toDouble` and `toSingle` are the number in a floating-point format.
-/
import ClassCatalog.FloatingPoint.Basic

namespace ClassCatalog

/-- The number of a JSON literal. -/
inductive JsonNumber where
  | integer (value : Int)
  | double (value : Double)
deriving DecidableEq, Repr

namespace JsonNumber

/-- The largest significand. -/
def maxSignificand : Nat := UInt64.size - 1

/-- Drops trailing digits until the rest fits; also how many were dropped. -/
def fitting (n : Nat) : Nat × Nat :=
  if n ≤ maxSignificand then (n, 0)
  else
    let (m, dropped) := fitting (n / 10)
    (m, dropped + 1)
termination_by n
decreasing_by simp only [maxSignificand] at *; omega

/-- Appends digits as long as the result fits; also how many were appended. -/
def extend : Nat → List (Fin 10) → Nat × Nat
  | n, [] => (n, 0)
  | n, d :: ds =>
    if maxSignificand < 10 * n + d.val then (n, 0)
    else
      let (m, taken) := extend (10 * n + d.val) ds
      (m, taken + 1)

/-- The number nearest to `10 ^ k`. -/
def powerOfTen (k : Nat) : Double := .ofInt (Decimal.tenPow k)

/-- `x · 10 ^ e`, in steps of at most 308 powers; `none` out of range. -/
def scale (x : Double) (e : Int) : Option Double :=
  if e.natAbs ≤ 308 then
    if 0 ≤ e then
      let y := x.mul (powerOfTen e.natAbs)
      if y.isInfinite then none else some y
    else some (x.div (powerOfTen e.natAbs))
  else if x.isZero then some x
  else if 0 ≤ e then none
  else scale (x.div (powerOfTen 308)) (e + 308)
termination_by e.natAbs
decreasing_by omega

/-- The number of a literal. -/
def ofDecimal? (d : Decimal) : Option JsonNumber :=
  let (n, dropped) := fitting d.whole
  if d.fraction = [] ∧ d.exponent = none ∧ dropped = 0 then
    if !d.negative then some (.integer n)
    else if 0 < n ∧ Int64.minValue.toInt ≤ -(n : Int) then some (.integer (-n))
    else some (.double (Double.ofInt n).neg)
  else
    let (m, taken) := extend n d.fraction
    (scale (.ofInt m) (dropped - taken + d.exponent.getD 0)).map fun x =>
      .double (if d.negative then x.neg else x)

/-- The number in double precision. -/
def toDouble : JsonNumber → Double
  | integer i => .ofInt i
  | double x => x

/-- The number in single precision. -/
def toSingle : JsonNumber → Single
  | integer i => .ofInt i
  | double x => x.narrow

/-- The number as an integer of the range. -/
def toInt? (low high : Int) : JsonNumber → Option Int
  | integer i => if low ≤ i ∧ i ≤ high then some i else none
  | double _ => none

end JsonNumber

end ClassCatalog
