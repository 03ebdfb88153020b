/-
  Which characters are shown as they are.

  Of the characters of Unicode 17, those that are not seen by themselves are not:
  controls, format characters, fillers, separators other than the blank,
  characters of private use, code points without a character, and marks that
  extend the character before them.

  * `isVisible` decides it.
-/
import ClassCatalog.Text.Extending
import ClassCatalog.Text.Unassigned

namespace ClassCatalog.Text

/-- Control characters: C0, delete and C1. -/
def controls : CodeRanges :=
  [(0x0, 0x1f), (0x7f, 0x9f)]

/-- Format characters. -/
def formats : CodeRanges :=
  [(0xad, 0xad), (0x600, 0x605), (0x61c, 0x61c), (0x6dd, 0x6dd), (0x70f, 0x70f), (0x890, 0x891),
   (0x8e2, 0x8e2), (0x180e, 0x180e), (0x200b, 0x200f), (0x202a, 0x202e), (0x2060, 0x2064),
   (0x2066, 0x206f), (0xfeff, 0xfeff), (0xfff9, 0xfffb), (0x110bd, 0x110bd), (0x110cd, 0x110cd),
   (0x13430, 0x1343f), (0x1bca0, 0x1bca3), (0x1d173, 0x1d17a), (0xe0001, 0xe0001),
   (0xe0020, 0xe007f)]

/-- Fillers: letters that a display may leave out (`Default_Ignorable_Code_Point`). -/
def fillers : CodeRanges :=
  [(0x115f, 0x1160), (0x3164, 0x3164), (0xffa0, 0xffa0)]

/-- Separators of words, lines and paragraphs other than the blank. -/
def separators : CodeRanges :=
  [(0xa0, 0xa0), (0x1680, 0x1680), (0x2000, 0x200a), (0x2028, 0x2029), (0x202f, 0x202f),
   (0x205f, 0x205f), (0x3000, 0x3000)]

/-- Characters left to private use. -/
def privateUse : CodeRanges :=
  [(0xe000, 0xf8ff), (0xf0000, 0xffffd), (0x100000, 0x10fffd)]

/-- The code points of the characters that are not shown as they are. -/
def invisible : List CodeRanges :=
  [controls, formats, fillers, separators, privateUse] ++ unassigned ++ extending

/-- A character is shown as it is.  From the blank to the tilde all are, which
    spares the tables. -/
def isVisible (c : Char) : Bool :=
  (0x20 ≤ c.toNat && c.toNat < 0x7f) || !invisible.any (·.contains c.toNat)

end ClassCatalog.Text
