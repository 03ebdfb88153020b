/-
  Declarations and events.

  A class arrives as a sequence of events: its header first, then class
  annotations, fields with their annotations, and methods with their own and
  their parameters' annotations.  A member annotation belongs to the member
  declared last.
-/
import ClassCatalog.Access
import ClassCatalog.Constant

namespace ClassCatalog

/-- The header of a class; its names are in internal form. -/
structure ClassHeader where
  access : AccessFlags
  name : String
  signature? : Option String
  superName? : Option String
  interfaces : List String
deriving DecidableEq, Repr, Inhabited

/-- The declaration of a field. -/
structure FieldDecl where
  access : AccessFlags
  name : String
  descriptor : String
  signature? : Option String
  constant? : Option FieldConstant
deriving DecidableEq, Repr, Inhabited

/-- The declaration of a method; the names of its exceptions are in internal
    form. -/
structure MethodDecl where
  access : AccessFlags
  name : String
  descriptor : String
  signature? : Option String
  exceptions : List String
deriving DecidableEq, Repr, Inhabited

/-- An event that a visitor may refuse. -/
inductive Event where
  | header (header : ClassHeader)
  | classAnnotated (descriptor : String) (visible : Bool)
  | field (decl : FieldDecl)
  | fieldAnnotated (descriptor : String) (visible : Bool)
  | method (decl : MethodDecl)
  | methodAnnotated (descriptor : String) (visible : Bool)
  | parameterAnnotated (parameter : Nat) (descriptor : String) (visible : Bool)
deriving DecidableEq, Repr

end ClassCatalog
