/-
  Equality of element values as values.

  It differs from the equality of the data in two ways: numbers compare as
  numbers (a NaN equals nothing, the two zeros are equal), and the attributes
  of an annotation compare as maps, without regard to their order.

  * `equal` compares two values;
  * `equalAttributes a b`: each attribute of `a` has an equal one in `b`; with
    equal numbers of attributes the tables are then equal as maps.
-/
import ClassCatalog.Element.Basic

namespace ClassCatalog.ElementValue

mutual

/-- The two values are equal. -/
def equal : ElementValue → ElementValue → Bool
  | bool a, bool b => a == b
  | byte a, byte b => a == b
  | char a, char b => a == b
  | short a, short b => a == b
  | int a, int b => a == b
  | long a, long b => a == b
  | float a, float b => a.equal b
  | double a, double b => a.equal b
  | string a, string b => a == b
  | classLiteral a, classLiteral b => a == b
  | enumConstant t a, enumConstant u b => t == u && a == b
  | nested t as, nested u bs => t == u && as.length == bs.length && equalAttributes as bs
  | array as, array bs => equalItems as bs
  | _, _ => false

/-- Each attribute of the first table has an equal one in the second. -/
def equalAttributes : List (String × ElementValue) → List (String × ElementValue) → Bool
  | [], _ => true
  | (name, value) :: as, bs =>
    (match bs.lookup name with
     | some other => equal value other
     | none => false) && equalAttributes as bs

/-- The two lists have equal items, place by place. -/
def equalItems : List ElementValue → List ElementValue → Bool
  | [], [] => true
  | a :: as, b :: bs => equal a b && equalItems as bs
  | _, _ => false

end

end ClassCatalog.ElementValue
