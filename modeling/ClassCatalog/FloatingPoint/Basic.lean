/-
  Single and double precision numbers, kept as their words.

  Two NaNs may differ in their words but none equals anything; the two zeros
  differ in their words but are equal.

  * `equal` is the comparison of the numbers, `=` that of the words;
  * `Single.widen` is exact, `Double.narrow` rounds;
  * `literal?` is the shortest literal that reads back; a NaN and an infinity
    have none.
-/
import ClassCatalog.FloatingPoint.Shortest

namespace ClassCatalog

open FloatingPoint

/-- A single precision number. -/
structure Single where
  bits : UInt32
deriving DecidableEq, Repr, Inhabited

/-- A double precision number. -/
structure Double where
  bits : UInt64
deriving DecidableEq, Repr, Inhabited

namespace Single

/-- What the word denotes. -/
def datum (x : Single) : Datum := Format.single.decode x.bits.toNat

def isNaN (x : Single) : Bool := x.bits &&& 0x7fffffff > 0x7f800000

def isZero (x : Single) : Bool := x.bits &&& 0x7fffffff == 0

/-- Equality of numbers. -/
def equal (x y : Single) : Bool :=
  !x.isNaN && !y.isNaN && (x.bits == y.bits || (x.isZero && y.isZero))

/-- The double precision number of the same value. -/
def widen (x : Single) : Double := ⟨.ofNat (Format.single.convert .double x.bits.toNat)⟩

/-- The nearest number to an integer. -/
def ofInt (i : Int) : Single := ⟨.ofNat (Format.single.round (i < 0) i.natAbs 1 0)⟩

/-- Written positionally from `0.000001` to below `10 ^ 13`. -/
def layout : Layout := ⟨-6, 12⟩

/-- The shortest literal that reads back. -/
def literal? (x : Single) : Option Decimal :=
  match x.datum with
  | .finite s m e => some (layout.decimal .single s m e)
  | _ => none

end Single

namespace Double

/-- What the word denotes. -/
def datum (x : Double) : Datum := Format.double.decode x.bits.toNat

def isNaN (x : Double) : Bool := x.bits &&& 0x7fffffffffffffff > 0x7ff0000000000000

def isZero (x : Double) : Bool := x.bits &&& 0x7fffffffffffffff == 0

def isInfinite (x : Double) : Bool := x.bits &&& 0x7fffffffffffffff == 0x7ff0000000000000

/-- Equality of numbers. -/
def equal (x y : Double) : Bool :=
  !x.isNaN && !y.isNaN && (x.bits == y.bits || (x.isZero && y.isZero))

/-- The nearest single precision number. -/
def narrow (x : Double) : Single := ⟨.ofNat (Format.double.convert .single x.bits.toNat)⟩

/-- The nearest number to an integer. -/
def ofInt (i : Int) : Double := ⟨.ofNat (Format.double.round (i < 0) i.natAbs 1 0)⟩

/-- The number with the other sign. -/
def neg (x : Double) : Double := ⟨x.bits ^^^ 0x8000000000000000⟩

/-- The nearest number to the product. -/
def mul (x y : Double) : Double := ⟨.ofNat (Format.double.mul x.bits.toNat y.bits.toNat)⟩

/-- The nearest number to the quotient. -/
def div (x y : Double) : Double := ⟨.ofNat (Format.double.div x.bits.toNat y.bits.toNat)⟩

/-- Written positionally from `0.00001` to below `10 ^ 16`. -/
def layout : Layout := ⟨-5, 15⟩

/-- The shortest literal that reads back. -/
def literal? (x : Double) : Option Decimal :=
  match x.datum with
  | .finite s m e => some (layout.decimal .double s m e)
  | _ => none

end Double

end ClassCatalog
