/-
  Scopes: the annotations captured on one class, field, method or parameter,
  by type name in order of first appearance.

  The type name of a capture is the key it stands at.  A capture is opened under its own
  type name, and neither changes afterwards; so it holds no copy of the name, and `handle?`
  and `handles` take the name of a handle from the key.

  * `start` opens an annotation; one of the same type that was captured before
    is emptied and keeps its place;
  * `set` records an element value of an annotation;
  * `names`, `handle?`, `has` and `view?` are what can be asked of a scope.
-/
import ClassCatalog.Annotations.View

namespace ClassCatalog

/-- The captured attributes of the annotations of one element. -/
structure Scope where
  captures : Table String Attributes
deriving Repr, Inhabited

namespace Scope

/-- No annotations. -/
def empty : Scope := ⟨[]⟩

/-- Opens an annotation of a type, without attributes. -/
def start (s : Scope) (typeName : String) : Scope := ⟨s.captures.put typeName []⟩

/-- Records an element value of the annotation of a type. -/
def set (s : Scope) (typeName name : String) (value : ElementValue) : Scope :=
  ⟨s.captures.modify typeName (·.put name value)⟩

/-- The type names in order of first appearance. -/
def names (s : Scope) : List String := s.captures.keys

/-- The annotation of a type. -/
def handle? (s : Scope) (typeName : String) : Option Handle :=
  (s.captures.get? typeName).map (⟨typeName, ·⟩)

/-- There is an annotation of the type. -/
def has (s : Scope) (typeName : String) : Bool := (s.handle? typeName).isSome

/-- The annotation of the schema's type, seen through the schema. -/
def view? (s : Scope) (schema : Schema) : Option View :=
  (s.handle? schema.typeName).map (·.view schema)

/-- All annotations in order. -/
def handles (s : Scope) : List Handle := s.captures.map fun (n, as) => ⟨n, as⟩

end Scope

end ClassCatalog
