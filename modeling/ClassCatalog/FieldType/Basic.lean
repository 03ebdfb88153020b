/-
  Field types and their names.

  A field type is a base type, an object type or an array of a field type.

  * `name` is the type as source code writes it: `int`, `java.lang.String`,
    `long[][]`; the dimensions of an array are counted on the way to its
    element type;
  * `descriptor` is the type as class files write it: `I`,
    `Ljava/lang/String;`, `[[J`; `methodDescriptor` puts descriptors together.
-/
import ClassCatalog.Name

namespace ClassCatalog

/-- The primitive types. -/
inductive BaseType where
  | byte | char | double | float | int | long | short | boolean
deriving DecidableEq, Repr

namespace BaseType

/-- The keyword of a primitive type. -/
def name : BaseType → String
  | byte => "byte"
  | char => "char"
  | double => "double"
  | float => "float"
  | int => "int"
  | long => "long"
  | short => "short"
  | boolean => "boolean"

/-- The character of a primitive type in a descriptor. -/
def code : BaseType → Char
  | byte => 'B'
  | char => 'C'
  | double => 'D'
  | float => 'F'
  | int => 'I'
  | long => 'J'
  | short => 'S'
  | boolean => 'Z'

/-- The primitive type with a character. -/
def ofCode? : Char → Option BaseType
  | 'B' => some byte
  | 'C' => some char
  | 'D' => some double
  | 'F' => some float
  | 'I' => some int
  | 'J' => some long
  | 'S' => some short
  | 'Z' => some boolean
  | _ => none

end BaseType

/-- The type of a field or of a parameter.  The class name of an object type
    is in internal form. -/
inductive FieldType where
  | base (type : BaseType)
  | object (className : String)
  | array (component : FieldType)
deriving DecidableEq, Repr

namespace FieldType

/-- The name of what is left of a type without its arrays, and the number of
    the arrays, counted on from `dimensions`. -/
def elementName (dimensions : Nat) : FieldType → String × Nat
  | base b => (b.name, dimensions)
  | object c => (Name.qualified c, dimensions)
  | array t => elementName (dimensions + 1) t

/-- A pair of brackets for each dimension. -/
def brackets (dimensions : Nat) : String :=
  String.ofList (List.replicate dimensions ['[', ']']).flatten

/-- The type as source code writes it. -/
def name (t : FieldType) : String :=
  let (element, dimensions) := t.elementName 0
  element ++ brackets dimensions

/-- The characters of the descriptor of a type. -/
def descriptorChars : FieldType → List Char
  | base b => [b.code]
  | object c => 'L' :: c.toList ++ [';']
  | array t => '[' :: t.descriptorChars

/-- The type as class files write it. -/
def descriptor (t : FieldType) : String := String.ofList t.descriptorChars

/-- The characters of a return type; `V` is that of no value. -/
def returnChars : Option FieldType → List Char
  | none => ['V']
  | some t => t.descriptorChars

/-- The types of the parameters and of the value of a method as class files
    write them. -/
def methodDescriptor (parameters : List FieldType) (result : Option FieldType) : String :=
  String.ofList ('(' :: parameters.flatMap descriptorChars ++ ')' :: returnChars result)

end FieldType

end ClassCatalog
