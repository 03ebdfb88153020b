/-
  Modified UTF-8, the encoding of text in class files.

  It differs from UTF-8 in that NUL may be written in two bytes (`C0 80`) and
  that a character beyond U+FFFF is a pair of surrogates of three bytes each.
  There are no sequences of four bytes.

  `decode` first recodes the bytes: pairs of surrogates become one character,
  a lone surrogate becomes U+FFFD, other sequences are copied as they are.  The
  copy must then be UTF-8.  Bytes that are all ASCII are taken as they are.
-/
import ClassCatalog.Text.Utf8

namespace ClassCatalog.ClassFile

/-- What is wrong with the bytes of a text. -/
inductive TextFault where
  /-- The bytes end within a sequence. -/
  | truncated
  /-- No sequence begins with this byte. -/
  | badLead
  /-- The recoded bytes are not UTF-8. -/
  | invalid (fault : Text.Utf8Fault)
deriving DecidableEq, Repr

/-- The text of a fault. -/
def TextFault.message : TextFault → String
  | truncated => "Invalid MUTF-8 byte sequence"
  | badLead => "MUTF-8 does not use 4-byte sequences"
  | invalid ⟨offset, some length⟩ =>
    s!"invalid utf-8 sequence of {length} bytes from index {offset}"
  | invalid ⟨offset, none⟩ => s!"incomplete utf-8 byte sequence from index {offset}"

namespace ModifiedUtf8

/-- The value of a sequence of three bytes. -/
def threeByteValue (a b c : UInt8) : Nat :=
  a.toNat % 16 * 4096 + b.toNat % 64 * 64 + c.toNat % 64

/-- A surrogate of the first half of a pair. -/
def isHigh (v : Nat) : Bool := 0xd800 ≤ v && v < 0xdc00

/-- A surrogate of the second half of a pair. -/
def isLow (v : Nat) : Bool := 0xdc00 ≤ v && v < 0xe000

/-- A byte that begins a sequence of three. -/
def isThreeByteLead (b : UInt8) : Bool := 0xe0 ≤ b && b < 0xf0

/-- The character of a pair of surrogates. -/
def pairValue (high low : Nat) : Nat := 0x10000 + (high - 0xd800) * 0x400 + (low - 0xdc00)

/-- The character that the second surrogate at the head of the bytes completes. -/
def pairWith? (high : Nat) : List UInt8 → Option Char
  | d :: e :: f :: _ =>
    let low := threeByteValue d e f
    if isHigh high && isThreeByteLead d && isLow low then some (Char.ofNat (pairValue high low))
    else none
  | _ => none

/-- Recodes bytes as UTF-8.  A sequence has at least one byte, so `fuel` may
    be the number of bytes. -/
def recode : Nat → List UInt8 → Except TextFault (List UInt8)
  | _, [] => .ok []
  | 0, _ :: _ => .error .truncated
  | fuel + 1, a :: rest =>
    if a < 0x80 then (recode fuel rest).map (a :: ·)
    else if 0xc0 ≤ a && a < 0xe0 then
      match rest with
      | b :: rest =>
        if a == 0xc0 && b == 0x80 then (recode fuel rest).map (0 :: ·)
        else (recode fuel rest).map (a :: b :: ·)
      | _ => .error .truncated
    else if isThreeByteLead a then
      match rest with
      | b :: c :: rest =>
        let v := threeByteValue a b c
        match pairWith? v rest with
        | some pair => (recode fuel (rest.drop 3)).map (Text.Utf8.encodeChar pair ++ ·)
        | none =>
          if isHigh v || isLow v then (recode fuel rest).map ([0xef, 0xbf, 0xbd] ++ ·)
          else (recode fuel rest).map (a :: b :: c :: ·)
      | _ => .error .truncated
    else .error .badLead

/-- The text of a sequence of bytes. -/
def decode (bytes : List UInt8) : Except TextFault String :=
  if bytes.all (· < 0x80) then .ok (String.ofList (bytes.map fun b => Char.ofNat b.toNat))
  else do
    let bytes ← recode bytes.length bytes
    (Text.Utf8.decode bytes).mapError .invalid

end ModifiedUtf8

end ClassCatalog.ClassFile
