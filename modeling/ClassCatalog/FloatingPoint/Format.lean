/-
  Binary floating-point formats.

  A format has a number of fraction bits and of exponent bits; a word of the
  format is a natural number: sign, exponent, fraction from high to low.  A
  word denotes a `Datum`: a NaN, an infinity, or `± significand · 2 ^ scale`.

  * `decode` gives the datum of a word, exactly;
  * `round` gives the word nearest to `± (num / den) · 2 ^ scale`, a tie going
    to the even significand and a magnitude beyond the largest to infinity;
  * `mul`, `div` and `convert` are the exact operations followed by `round`.
-/
namespace ClassCatalog.FloatingPoint

/-- A format: how many bits its fraction and its exponent have. -/
structure Format where
  fractionBits : Nat
  exponentBits : Nat
deriving DecidableEq, Repr

/-- What a word denotes; a finite one is `± significand · 2 ^ scale`. -/
inductive Datum where
  | nan
  | infinite (negative : Bool)
  | finite (negative : Bool) (significand : Nat) (scale : Int)
deriving DecidableEq, Repr

/-- A power of two. -/
def twoPow (n : Nat) : Nat := Nat.pow 2 n

/-- The nearest integer to `num / den`, a tie going to the even one. -/
def roundHalfEven (num den : Nat) : Nat :=
  let q := num / den
  let r := num % den
  if 2 * r < den then q
  else if den < 2 * r then q + 1
  else if q % 2 = 0 then q else q + 1

/-- `num / den · 2 ^ scale` as a quotient of natural numbers. -/
def scaleRatio (num den : Nat) (scale : Int) : Nat × Nat :=
  (num * twoPow scale.toNat, den * twoPow (-scale).toNat)

namespace Format

variable (f : Format)

/-- 32 bits. -/
def single : Format := ⟨23, 8⟩

/-- 64 bits. -/
def double : Format := ⟨52, 11⟩

/-- The exponent field of infinities and NaNs. -/
def topExponent : Nat := twoPow f.exponentBits - 1

/-- The scale of the subnormal numbers, the least of the format. -/
def minScale : Int := 2 - twoPow (f.exponentBits - 1) - f.fractionBits

/-- The sign bit, when set. -/
def signWord (negative : Bool) : Nat :=
  if negative then twoPow (f.exponentBits + f.fractionBits) else 0

/-- An infinity. -/
def infinity (negative : Bool) : Nat := f.signWord negative + f.topExponent * twoPow f.fractionBits

/-- The quiet NaN without payload. -/
def quietNan : Nat := f.infinity false + twoPow (f.fractionBits - 1)

/-- The datum of a word. -/
def decode (word : Nat) : Datum :=
  let fraction := word % twoPow f.fractionBits
  let exponent := word / twoPow f.fractionBits % twoPow f.exponentBits
  let negative := word / twoPow (f.exponentBits + f.fractionBits) % 2 = 1
  if exponent = f.topExponent then
    if fraction = 0 then .infinite negative else .nan
  else if exponent = 0 then .finite negative fraction f.minScale
  else .finite negative (twoPow f.fractionBits + fraction) (f.minScale + exponent - 1)

/-- The largest `k` with `2 ^ k ≤ num / den`. -/
def floorLog2 (num den : Nat) : Int :=
  let k : Int := (Nat.log2 num : Int) - Nat.log2 den
  let (n, d) := scaleRatio num den (-k)
  if d ≤ n then k else k - 1

/-- The word nearest to `± (num / den) · 2 ^ scale`. -/
def round (negative : Bool) (num den : Nat) (scale : Int) : Nat :=
  if num = 0 then f.signWord negative
  else
    let s := max (floorLog2 num den + scale - f.fractionBits) f.minScale
    let (n, d) := scaleRatio num den (scale - s)
    let magnitude := (s - f.minScale).toNat * twoPow f.fractionBits + roundHalfEven n d
    f.signWord negative + min magnitude (f.topExponent * twoPow f.fractionBits)

/-- The product of two words. -/
def mul (a b : Nat) : Nat :=
  match f.decode a, f.decode b with
  | .nan, _ | _, .nan => f.quietNan
  | .finite s m e, .finite s' m' e' => f.round (s != s') (m * m') 1 (e + e')
  | .infinite s, .infinite s' => f.infinity (s != s')
  | .infinite s, .finite s' m _ | .finite s m _, .infinite s' =>
    if m = 0 then f.quietNan else f.infinity (s != s')

/-- The quotient of two words. -/
def div (a b : Nat) : Nat :=
  match f.decode a, f.decode b with
  | .nan, _ | _, .nan | .infinite _, .infinite _ => f.quietNan
  | .finite s m e, .finite s' m' e' =>
    if m' = 0 then if m = 0 then f.quietNan else f.infinity (s != s')
    else f.round (s != s') m m' (e - e')
  | .infinite s, .finite s' _ _ => f.infinity (s != s')
  | .finite s _ _, .infinite s' => f.signWord (s != s')

/-- A word of the format `f` as the nearest word of the format `g`. -/
def convert (f g : Format) (word : Nat) : Nat :=
  match f.decode word with
  | .nan => g.quietNan
  | .infinite s => g.infinity s
  | .finite s m e => g.round s m 1 e

end Format

end ClassCatalog.FloatingPoint
