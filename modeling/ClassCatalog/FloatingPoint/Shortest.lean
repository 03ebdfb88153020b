/-
  The shortest decimal text of a finite floating-point number.

  The decimals that round to a number form an interval around it, whose ends
  belong to it iff the significand is even.  `shortest` takes the coarsest
  grid `10 ^ k` that has a point in the interval and the point of it nearest
  to the number, a tie going to the even point: no decimal with fewer digits
  reads back, and of those with as many none is nearer.

  `Layout` says which numbers are written positionally; the others are written
  with one digit before the point and an exponent.  A number without exponent
  always has a fraction, so `1` is written `1.0`.
-/
import ClassCatalog.FloatingPoint.Format
import ClassCatalog.Decimal

namespace ClassCatalog.FloatingPoint

/-- `10 ^ k` as a quotient of natural numbers. -/
def powerOfTen (k : Int) : Nat × Nat := (Decimal.tenPow k.toNat, Decimal.tenPow (-k).toNat)

/-- The point `c · 10 ^ k` of the grid `k` nearest to `significand · 2 ^ scale`
    among those that round to it in the format. -/
def gridPoint? (f : Format) (significand : Nat) (scale k : Int) : Option Nat :=
  let value := 4 * significand
  let low := if significand = twoPow f.fractionBits ∧ f.minScale < scale then value - 1 else value - 2
  let high := value + 2
  let (p, q) := powerOfTen k
  let (n, d) := scaleRatio q p (scale - 2)
  let inside (c : Nat) : Bool :=
    if significand % 2 = 0 then low * n ≤ c * d && c * d ≤ high * n
    else low * n < c * d && c * d < high * n
  let c := value * n / d
  let below := value * n - c * d
  let above := (c + 1) * d - value * n
  match inside c, inside (c + 1) with
  | false, false => none
  | true, false => some c
  | false, true => some (c + 1)
  | true, true =>
    if below < above then some c
    else if above < below then some (c + 1)
    else if c % 2 = 0 then some c else some (c + 1)

/-- The first grid with a point, from `k` downwards through `fuel` grids. -/
def coarsestPoint? (f : Format) (significand : Nat) (scale : Int) : Nat → Int → Option (Nat × Int)
  | 0, _ => none
  | fuel + 1, k =>
    match gridPoint? f significand scale k with
    | some c => some (c, k)
    | none => coarsestPoint? f significand scale fuel (k - 1)

/-- The shortest decimal `c · 10 ^ k` that rounds to `significand · 2 ^ scale`.
    The search starts at a grid coarser than the number and ends, at the
    latest, at one that contains it. -/
def shortest (f : Format) (significand : Nat) (scale : Int) : Nat × Int :=
  let magnitude : Int := (Nat.log2 significand : Int) + 1 + scale
  let start := max (magnitude * 1233 / 4096) (magnitude * 1234 / 4096) + 1
  (coarsestPoint? f significand scale (start - min scale 0 + 1).toNat start).getD (significand, 0)

/-- Which numbers are written positionally: those whose first digit stands for
    a power of ten between `lowest` and `highest`. -/
structure Layout where
  lowest : Int
  highest : Int

/-- The literal of `± c · 10 ^ k` for a positive `c`. -/
def Layout.literal (l : Layout) (negative : Bool) (c : Nat) (k : Int) : Decimal :=
  let ds := Decimal.digits c
  let first : Int := k + ds.length - 1
  if l.lowest ≤ first ∧ first ≤ l.highest then
    if 0 ≤ k then ⟨negative, c * Decimal.tenPow k.toNat, [Decimal.zero], none⟩
    else
      let places := (-k).toNat
      ⟨negative, c / Decimal.tenPow places,
        (ds.leftpad places Decimal.zero).drop (ds.length - places), none⟩
  else ⟨negative, Decimal.ofDigits (ds.take 1), ds.drop 1, some first⟩

/-- The literal of a finite number; zero keeps its sign. -/
def Layout.decimal (l : Layout) (f : Format) (negative : Bool) (significand : Nat) (scale : Int) :
    Decimal :=
  if significand = 0 then ⟨negative, 0, [Decimal.zero], none⟩
  else
    let (c, k) := shortest f significand scale
    l.literal negative c k

end ClassCatalog.FloatingPoint
