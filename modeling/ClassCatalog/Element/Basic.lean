/-
  Element values: what an annotation stores under the name of an element.

  A value is a scalar, a string, a class literal, an enum constant, a nested
  annotation or an array of values.  A class literal is kept as its type name
  (`java.lang.String`, `int[]`).  The attributes of a nested annotation are a
  table: names in order of first appearance, none of them twice.

  * `kindName` is the name under which messages speak of a value;
  * `items` is the value read as an array.
-/
import ClassCatalog.Table
import ClassCatalog.FloatingPoint.Basic

namespace ClassCatalog

/-- The value of one annotation element. -/
inductive ElementValue where
  | bool (value : Bool)
  | byte (value : Int8)
  | char (value : Char)
  | short (value : Int16)
  | int (value : Int32)
  | long (value : Int64)
  | float (value : Single)
  | double (value : Double)
  | string (value : String)
  | classLiteral (typeName : String)
  | enumConstant (typeName constant : String)
  | nested (typeName : String) (attributes : List (String × ElementValue))
  | array (items : List ElementValue)
deriving Repr, Inhabited

/-- Element values by the names of their elements. -/
abbrev Attributes := Table String ElementValue

namespace ElementValue

/-- The kind of a value as messages name it. -/
def kindName : ElementValue → String
  | bool _ => "boolean"
  | byte _ => "byte"
  | char _ => "char"
  | short _ => "short"
  | int _ => "int"
  | long _ => "long"
  | float _ => "float"
  | double _ => "double"
  | string _ => "string"
  | classLiteral _ => "class"
  | enumConstant _ _ => "enum"
  | nested _ _ => "annotation"
  | array _ => "array"

/-- The value as an array: any other value stands for the array of itself. -/
def items : ElementValue → List ElementValue
  | array vs => vs
  | v => [v]

/-! ## Readings of a value

Each is `none` on a value of a kind that it does not take. -/

def string? : ElementValue → Option String
  | string s => some s
  | _ => none

def bool? : ElementValue → Option Bool
  | bool b => some b
  | _ => none

/-- An `int` value, without widening. -/
def exactInt? : ElementValue → Option Int32
  | int v => some v
  | _ => none

/-- A value of an integral kind that fits 32 bits. -/
def int? : ElementValue → Option Int32
  | int v => some v
  | short v => some v.toInt32
  | byte v => some v.toInt32
  | char c => some (.ofInt c.toNat)
  | _ => none

/-- A value of any integral kind. -/
def long? : ElementValue → Option Int64
  | long v => some v
  | int v => some v.toInt64
  | short v => some v.toInt64
  | byte v => some v.toInt64
  | char c => some (.ofInt c.toNat)
  | _ => none

/-- A value of a floating-point kind. -/
def double? : ElementValue → Option Double
  | double v => some v
  | float v => some v.widen
  | _ => none

/-- The type name of a class literal. -/
def className? : ElementValue → Option String
  | classLiteral t => some t
  | _ => none

/-- The constant of an enum value. -/
def enumConstant? : ElementValue → Option String
  | enumConstant _ c => some c
  | _ => none

/-- The attributes of a nested annotation. -/
def attributes? : ElementValue → Option Attributes
  | nested _ attributes => some attributes
  | _ => none

end ElementValue

end ClassCatalog
