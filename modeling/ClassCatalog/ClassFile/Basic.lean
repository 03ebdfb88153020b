/-
  Class files, decoded but not interpreted.

  A class file has a pool of constants and refers to them by index.  Index 0
  is no constant, and a `long` or `double` takes two places of which only the
  first can be used.

  * `Pool.utf8`, `Pool.className`, `Pool.integer` and their likes look a
    constant of one kind up; the index that fails is the one reported;
  * attributes that carry nothing for a model are kept by name only.
-/
import ClassCatalog.Access
import ClassCatalog.FloatingPoint.Basic

namespace ClassCatalog.ClassFile

/-- A constant of the pool. -/
inductive PoolConstant where
  | utf8 (text : String)
  | integer (value : Int32)
  | float (value : Single)
  | long (value : Int64)
  | double (value : Double)
  /-- A class, by the index of its internal name. -/
  | classRef (name : Nat)
  /-- A string, by the index of its text. -/
  | string (text : Nat)
  /-- A constant of a kind that no declaration refers to. -/
  | other (tag : Nat)
deriving DecidableEq, Repr

/-- The constant takes two places. -/
def PoolConstant.isWide : PoolConstant → Bool
  | long _ | double _ => true
  | _ => false

/-- The places from index 1 on; the second place of a wide constant is empty. -/
structure Pool where
  places : List (Option PoolConstant)
deriving Repr, Inhabited

/-- A failed lookup. -/
inductive LookupError where
  /-- There is no constant at the index. -/
  | noConstant (index : Nat)
  /-- The constant at the index is of another kind. -/
  | otherKind (index : Nat)
deriving DecidableEq, Repr

/-- The text of a failed lookup. -/
def LookupError.message : LookupError → String
  | noConstant i => s!"InvalidConstantPoolIndex({i})"
  | otherKind i => s!"InvalidConstantPoolIndexType({i})"

namespace Pool

/-- The constant at an index. -/
def get? (p : Pool) : Nat → Option PoolConstant
  | 0 => none
  | i + 1 => (p.places[i]?).join

/-- The constant at an index as far as `read` takes its kind. -/
def lookup {α : Type} (p : Pool) (read : PoolConstant → Option α) (index : Nat) :
    Except LookupError α :=
  match p.get? index with
  | none => .error (.noConstant index)
  | some c =>
    match read c with
    | some a => .ok a
    | none => .error (.otherKind index)

/-- The text at an index. -/
def utf8 (p : Pool) : Nat → Except LookupError String :=
  p.lookup fun
    | .utf8 s => some s
    | _ => none

def integer (p : Pool) : Nat → Except LookupError Int32 :=
  p.lookup fun
    | .integer v => some v
    | _ => none

def float (p : Pool) : Nat → Except LookupError Single :=
  p.lookup fun
    | .float v => some v
    | _ => none

def long (p : Pool) : Nat → Except LookupError Int64 :=
  p.lookup fun
    | .long v => some v
    | _ => none

def double (p : Pool) : Nat → Except LookupError Double :=
  p.lookup fun
    | .double v => some v
    | _ => none

/-- The internal name of the class at an index. -/
def className (p : Pool) (index : Nat) : Except LookupError String := do
  let name ← p.lookup (fun | .classRef n => some n | _ => none) index
  p.utf8 name

end Pool

/-- The kinds of element values that are one constant. -/
inductive ScalarKind where
  | boolean | byte | char | short | int | long | float | double | string | classLiteral
deriving DecidableEq, Repr

/-- An element value. -/
inductive Element where
  | scalar (kind : ScalarKind) (index : Nat)
  | enumConstant (typeName constant : Nat)
  | nested (type : Nat) (pairs : List (Nat × Element))
  | array (items : List Element)
deriving Repr, Inhabited

/-- An annotation: the index of its type descriptor, and its elements with the
    indices of their names. -/
structure AnnotationItem where
  type : Nat
  pairs : List (Nat × Element)
deriving Repr, Inhabited

/-- An attribute of a class, field or method. -/
inductive Attribute where
  | constantValue (index : Nat)
  | signature (index : Nat)
  | exceptions (classes : List Nat)
  | annotations (visible : Bool) (items : List AnnotationItem)
  /-- The annotations of the parameters, a list for each. -/
  | parameterAnnotations (visible : Bool) (parameters : List (List AnnotationItem))
  | other (name : String)
deriving Repr, Inhabited

/-- A field or a method. -/
structure Member where
  access : AccessFlags
  name : Nat
  descriptor : Nat
  attributes : List Attribute
deriving Repr, Inhabited

/-- A class file. -/
structure File where
  pool : Pool
  access : AccessFlags
  thisClass : Nat
  /-- 0 for a class without super class. -/
  superClass : Nat
  interfaces : List Nat
  fields : List Member
  methods : List Member
  attributes : List Attribute
deriving Repr, Inhabited

end ClassCatalog.ClassFile
