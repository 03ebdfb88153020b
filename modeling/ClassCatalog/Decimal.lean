/-
  Decimal literals: a sign, a whole part, the digits of a fraction and an
  exponent.

  * `digits` are the digits of a natural number, most significant first, and
    `ofDigits` the number that digits denote;
  * `text` writes a literal: the whole part, `.` and the fraction if there is
    one, `e` and a signed exponent if there is one.
-/
namespace ClassCatalog

/-- A decimal literal.  One without fraction and exponent is an integer. -/
structure Decimal where
  negative : Bool
  whole : Nat
  fraction : List (Fin 10)
  exponent : Option Int
deriving DecidableEq, Repr, Inhabited

namespace Decimal

/-- A power of ten. -/
def tenPow (n : Nat) : Nat := Nat.pow 10 n

/-- The digit nought. -/
def zero : Fin 10 := ⟨0, by decide⟩

/-- The character of a digit. -/
def digitChar (d : Fin 10) : Char := Char.ofNat ('0'.toNat + d.val)

/-- The digit that a character stands for. -/
def digit? (c : Char) : Option (Fin 10) :=
  if h : '0'.toNat ≤ c.toNat ∧ c.toNat ≤ '9'.toNat then
    some ⟨c.toNat - '0'.toNat, by have := h.1; have := h.2; simp at *; omega⟩
  else none

/-- The decimal digits of a number, most significant first. -/
def digits (n : Nat) : List (Fin 10) :=
  if n < 10 then [Fin.ofNat 10 n] else digits (n / 10) ++ [Fin.ofNat 10 n]
termination_by n
decreasing_by omega

/-- The number denoted by digits. -/
def ofDigits (ds : List (Fin 10)) : Nat := ds.foldl (fun n d => 10 * n + d.val) 0

/-- The characters of a natural number. -/
def natText (n : Nat) : List Char := (digits n).map digitChar

/-- The literal of an integer. -/
def ofInt (i : Int) : Decimal := ⟨decide (i < 0), i.natAbs, [], none⟩

/-- The characters of an exponent: its sign, always, and its digits. -/
def exponentText (e : Int) : List Char :=
  (if e < 0 then '-' else '+') :: natText e.natAbs

/-- The characters of a literal. -/
def text (d : Decimal) : List Char :=
  (if d.negative then ['-'] else []) ++ natText d.whole ++
    (if d.fraction = [] then [] else '.' :: d.fraction.map digitChar) ++
    (match d.exponent with
     | none => []
     | some e => 'e' :: exponentText e)

end Decimal

end ClassCatalog
