/-
  JSON texts as trees.

  A tree keeps what a text says before anyone asks for a type: a number is its
  literal, an object the list of its members with repetitions.  A string may
  hold half of a surrogate pair; it is then no text, which matters only to
  those who look at it.

  * `text` is the compact JSON text of a tree;
  * `strict` is what is asked of a tree that is kept before its type is known.
-/
import ClassCatalog.Decimal
import ClassCatalog.Text.Quoted

namespace ClassCatalog

/-- A JSON text as a tree.  A string or a key that is no text is `none`. -/
inductive Json where
  | null
  | bool (value : Bool)
  | number (literal : Decimal)
  | string (text? : Option String)
  | array (items : List Json)
  | object (members : List (Option String × Json))
deriving Repr, Inhabited

namespace Json

/-- A string. -/
def ofString (s : String) : Json := string (some s)

/-- An integer. -/
def ofInt (i : Int) : Json := number (.ofInt i)

/-- An object with the given members. -/
def ofMembers (members : List (String × Json)) : Json :=
  object (members.map fun (name, j) => (some name, j))

/-! ## Writing -/

/-- A character as written in a string. -/
def escape (c : Char) : List Char :=
  if c = '"' || c = '\\' then ['\\', c]
  else if c = '\x08' then ['\\', 'b']
  else if c = '\x0c' then ['\\', 'f']
  else if c = '\n' then ['\\', 'n']
  else if c = '\r' then ['\\', 'r']
  else if c = '\t' then ['\\', 't']
  else if c.toNat < 0x20 then ['\\', 'u'] ++ (Text.hexDigits c.toNat).leftpad 4 '0'
  else [c]

/-- The characters of a string with its quotes. -/
def stringText (s : String) : List Char := '"' :: s.toList.flatMap escape ++ ['"']

mutual

/-- The compact JSON text of a tree. -/
def text : Json → List Char
  | null => ['n', 'u', 'l', 'l']
  | bool true => ['t', 'r', 'u', 'e']
  | bool false => ['f', 'a', 'l', 's', 'e']
  | number d => d.text
  | string s? => stringText (s?.getD "")
  | array items => '[' :: itemsText items ++ [']']
  | object members => '\x7b' :: membersText members ++ ['\x7d']

/-- Items with commas between them. -/
def itemsText : List Json → List Char
  | [] => []
  | [j] => j.text
  | j :: items => j.text ++ ',' :: itemsText items

/-- Members with commas between them. -/
def membersText : List (Option String × Json) → List Char
  | [] => []
  | [(name?, j)] => stringText (name?.getD "") ++ ':' :: j.text
  | (name?, j) :: members =>
    stringText (name?.getD "") ++ ':' :: j.text ++ ',' :: membersText members

end

/-- The compact JSON text of a tree, as a string. -/
def render (j : Json) : String := String.ofList j.text

end Json

end ClassCatalog
