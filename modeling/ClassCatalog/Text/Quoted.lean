/-
  Quoted text: how a string or a character is shown inside a message.

  A quoted string stands between double quotes, a quoted character between
  single ones.  A character that cannot stand for itself (the enclosing quote,
  the backslash, a character that would not be seen) is written as an escape;
  all others are written raw.

  * `hexDigits` writes a number in lower-case hexadecimal, without padding;
  * `quote` and `quoteChar` write a string and a character.
-/
import ClassCatalog.Text.Visible

namespace ClassCatalog.Text

/-- The lower-case hexadecimal digits of a number, without leading zeros. -/
def hexDigits (n : Nat) : List Char := Nat.toDigits 16 n

/-- A character as written between two quotes `mark`. -/
def escape (mark c : Char) : List Char :=
  if c = '\x00' then ['\\', '0']
  else if c = '\t' then ['\\', 't']
  else if c = '\n' then ['\\', 'n']
  else if c = '\r' then ['\\', 'r']
  else if c = '\\' || c = mark then ['\\', c]
  else if isVisible c then [c]
  else ['\\', 'u', '\x7b'] ++ hexDigits c.toNat ++ ['\x7d']

/-- A string between double quotes. -/
def quote (s : String) : String :=
  String.ofList ('"' :: s.toList.flatMap (escape '"') ++ ['"'])

/-- A character between single quotes. -/
def quoteChar (c : Char) : String :=
  String.ofList ('\'' :: escape '\'' c ++ ['\''])

end ClassCatalog.Text
