/-
  UTF-8: bytes as text.

  `decode` reads a sequence of bytes.  The bytes of a character are a lead
  byte and up to three continuation bytes; overlong forms, surrogates and
  values beyond U+10FFFF are excluded by the range of the second byte.  A fault
  names the first bad sequence: its offset and how many of its bytes could
  have begun a character (at least one).  A sequence cut short by the end of
  the bytes has no such length.
-/
namespace ClassCatalog.Text

/-- The first sequence of bytes that is no character. -/
structure Utf8Fault where
  offset : Nat
  /-- `none` if the bytes end within the sequence. -/
  length? : Option Nat
deriving DecidableEq, Repr

namespace Utf8

/-- How many continuation bytes follow a lead byte, and the range of the first
    of them. -/
def lead? (b : UInt8) : Option (Nat × UInt8 × UInt8) :=
  if b < 0x80 then some (0, 0x80, 0xbf)
  else if b < 0xc2 then none
  else if b < 0xe0 then some (1, 0x80, 0xbf)
  else if b == 0xe0 then some (2, 0xa0, 0xbf)
  else if b == 0xed then some (2, 0x80, 0x9f)
  else if b < 0xf0 then some (2, 0x80, 0xbf)
  else if b == 0xf0 then some (3, 0x90, 0xbf)
  else if b < 0xf4 then some (3, 0x80, 0xbf)
  else if b == 0xf4 then some (3, 0x80, 0x8f)
  else none

/-- The payload of a lead byte with `n` continuation bytes. -/
def leadPayload (n : Nat) (b : UInt8) : Nat :=
  if n = 0 then b.toNat else b.toNat % Nat.pow 2 (6 - n)

/-- Reads `n` continuation bytes, the first of them in the given range, onto
    the value `acc`; `seen` bytes of the sequence were read before.  A fault is
    the number of bytes that could have begun a character. -/
def continuation (n seen : Nat) (low high : UInt8) (acc : Nat) (bytes : List UInt8) :
    Except (Option Nat) (Nat × List UInt8) :=
  match n, bytes with
  | 0, bytes => .ok (acc, bytes)
  | _ + 1, [] => .error none
  | n + 1, b :: rest =>
    if low ≤ b && b ≤ high then continuation n (seen + 1) 0x80 0xbf (acc * 64 + b.toNat % 64) rest
    else .error (some seen)

/-- Reads one character. -/
def character (bytes : List UInt8) : Except (Option Nat) (Char × List UInt8) :=
  match bytes with
  | [] => .error none
  | b :: rest =>
    match lead? b with
    | none => .error (some 1)
    | some (n, low, high) =>
      match continuation n 1 low high (leadPayload n b) rest with
      | .ok (v, rest) => .ok (Char.ofNat v, rest)
      | .error fault => .error fault

/-- Reads characters to the end; `offset` bytes were read before.  A character
    has at least one byte, so `fuel` may be the number of bytes. -/
def characters : Nat → Nat → List UInt8 → Except Utf8Fault (List Char)
  | _, _, [] => .ok []
  | 0, offset, _ :: _ => .error ⟨offset, none⟩
  | fuel + 1, offset, b :: bytes =>
    match character (b :: bytes) with
    | .error length? => .error ⟨offset, length?⟩
    | .ok (c, rest) =>
      match characters fuel (offset + (bytes.length + 1 - rest.length)) rest with
      | .ok cs => .ok (c :: cs)
      | .error fault => .error fault

/-- The text of a sequence of bytes. -/
def decode (bytes : List UInt8) : Except Utf8Fault String :=
  (characters bytes.length 0 bytes).map String.ofList

/-- The bytes of a character. -/
def encodeChar (c : Char) : List UInt8 := (String.singleton c).toUTF8.toList

end Utf8

end ClassCatalog.Text
