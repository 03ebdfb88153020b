/-
  Reading types from JSON trees.

  At most `maxDepth` containers may be nested in what is read as a type; each
  reader takes the number of containers that may still be entered.  Members
  that a type does not know are not looked at, but the names of all members
  must be texts.

  * `text?`, `flag?`, `integer?`, `double?`, `single?` and `char?` read scalars;
  * `fields?` finds the members of a type with known names, each at most once;
  * `strict` is asked of a value that is kept until its type is known.
-/
import ClassCatalog.Json.Basic
import ClassCatalog.Json.Number

namespace ClassCatalog.Json

/-- How many containers may be nested. -/
def maxDepth : Nat := 127

/-! ## Scalars -/

def text? : Json → Option String
  | string text? => text?
  | _ => none

def flag? : Json → Option Bool
  | bool b => some b
  | _ => none

/-- The number of a literal in range. -/
def number? : Json → Option JsonNumber
  | number d => JsonNumber.ofDecimal? d
  | _ => none

/-- An integer of the range. -/
def integer? (low high : Int) (j : Json) : Option Int := do (← j.number?).toInt? low high

def double? (j : Json) : Option Double := j.number?.map (·.toDouble)

def single? (j : Json) : Option Single := j.number?.map (·.toSingle)

/-- A string of one character. -/
def char? (j : Json) : Option Char := do
  match (← j.text?).toList with
  | [c] => some c
  | _ => none

/-! ## Members -/

/-- The members by name; `none` if a name is no text. -/
def named? (members : List (Option String × Json)) : Option (List (String × Json)) :=
  members.mapM fun (name?, j) => name?.map (·, j)

/-- The members with the given names, in the order of the names; `none` if one
    of them is repeated. -/
def fields? (names : List String) (members : List (String × Json)) :
    Option (List (Option Json)) :=
  names.mapM fun name =>
    match members.filter (·.1 == name) with
    | [] => some none
    | [(_, j)] => some (some j)
    | _ => none

/-- The members of an object or of an array of a type with the given names.  In
    an array the values stand in the order of the names, and the last ones may
    be missing. -/
def record? (names : List String) : Json → Option (List (Option Json))
  | object members => do fields? names (← named? members)
  | array items =>
    if items.length ≤ names.length then
      some (items.map some ++ List.replicate (names.length - items.length) none)
    else none
  | _ => none

/-! ## Kept values -/

mutual

/-- All strings are texts, all numbers in range and at most `depth` containers
    nested. -/
def strict (depth : Nat) : Json → Bool
  | null | bool _ => true
  | number d => (JsonNumber.ofDecimal? d).isSome
  | string text? => text?.isSome
  | array items =>
    match depth with
    | 0 => false
    | depth + 1 => strictItems depth items
  | object members =>
    match depth with
    | 0 => false
    | depth + 1 => strictMembers depth members

/-- All items are strict. -/
def strictItems (depth : Nat) : List Json → Bool
  | [] => true
  | j :: items => strict depth j && strictItems depth items

/-- All members are strict, and their names are texts. -/
def strictMembers (depth : Nat) : List (Option String × Json) → Bool
  | [] => true
  | (name?, j) :: members => name?.isSome && strict depth j && strictMembers depth members

end

end ClassCatalog.Json
