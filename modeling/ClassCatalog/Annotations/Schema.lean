/-
  Schemas: the shape of an annotation type, given by whoever looks at an
  annotation.  A schema has a type name and declares elements, each with an
  optional default.

  * `element` and `elementWithDefault` declare an element.  Declaring a name
    again keeps its place and replaces (or removes) its default.
-/
import ClassCatalog.Element.Basic

namespace ClassCatalog

/-- The shape of an annotation type. -/
structure Schema where
  typeName : String
  elements : Table String (Option ElementValue)
deriving Repr, Inhabited

namespace Schema

/-- The schema of a type without elements. -/
def ofTypeName (typeName : String) : Schema := ⟨typeName, []⟩

/-- Declares an element, with or without a default. -/
def declare (s : Schema) (name : String) (default? : Option ElementValue) : Schema :=
  { s with elements := s.elements.put name default? }

/-- Declares an element without a default. -/
def element (s : Schema) (name : String) : Schema := s.declare name none

/-- Declares an element with a default. -/
def elementWithDefault (s : Schema) (name : String) (value : ElementValue) : Schema :=
  s.declare name (some value)

/-- The schema declares the name. -/
def declares (s : Schema) (name : String) : Bool := s.elements.contains name

/-- The default of an element that is declared with one. -/
def defaultValue? (s : Schema) (name : String) : Option ElementValue :=
  (s.elements.get? name).join

/-- The declared names, in order of first declaration. -/
def elementNames (s : Schema) : List String := s.elements.keys

end Schema

end ClassCatalog
