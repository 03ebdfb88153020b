/-
  Captured annotations and the views on them.

  A `Handle` is the captured data of one annotation; a `View` looks at it
  through a schema.  An element is resolved in this order: a name that the
  schema does not declare is an error even if a value was recorded; then the
  recorded value; then the default; then an error.

  * `value` resolves an element;
  * `string`, `bool`, `int`, `long`, `double`, `className`, `enumConstant` and
    `nested` read one value of a kind;
  * `strings`, `enumConstants`, `ints` and `nestedArray` read an array, where
    a single value stands for the array of itself.
-/
import ClassCatalog.Annotations.Schema

namespace ClassCatalog

/-- The captured data of one annotation. -/
structure Handle where
  typeName : String
  attributes : Attributes
deriving Repr, Inhabited

/-- Why an element could not be read. -/
inductive AccessError where
  | missing (typeName element : String)
  | undeclared (typeName element : String)
  | mismatch (typeName element expected found : String)
deriving DecidableEq, Repr

/-- The text of an error. -/
def AccessError.message : AccessError → String
  | missing a n => s!"@{a} has no value for '{n}' and declares no default"
  | undeclared a n => s!"@{a} does not declare an element named '{n}'"
  | mismatch a n expected found => s!"@{a}.{n} holds {found}, expected {expected}"

/-- An annotation as it is seen through a schema. -/
structure View where
  schema : Schema
  attributes : Attributes
deriving Repr, Inhabited

/-- The view of a captured annotation through a schema. -/
def Handle.view (h : Handle) (schema : Schema) : View := ⟨schema, h.attributes⟩

namespace View

/-- The type name that the schema gives. -/
def typeName (v : View) : String := v.schema.typeName

/-- A value was recorded under the name. -/
def isExplicit (v : View) (name : String) : Bool := v.attributes.contains name

/-- The value of an element. -/
def value (v : View) (name : String) : Except AccessError ElementValue :=
  if v.schema.declares name then
    match v.attributes.get? name with
    | some x => .ok x
    | none =>
      match v.schema.defaultValue? name with
      | some x => .ok x
      | none => .error (.missing v.typeName name)
  else .error (.undeclared v.typeName name)

/-- Reads a value by `read`; a value that it refuses is a mismatch. -/
def reading {α : Type} (v : View) (name expected : String) (read : ElementValue → Option α)
    (x : ElementValue) : Except AccessError α :=
  match read x with
  | some a => .ok a
  | none => .error (.mismatch v.typeName name expected x.kindName)

/-- The value of an element, read by `read`. -/
def scalar {α : Type} (v : View) (name expected : String) (read : ElementValue → Option α) :
    Except AccessError α := do
  v.reading name expected read (← v.value name)

/-- The items of an element, each read by `read`; the first refused one is the
    mismatch. -/
def arrayOf {α : Type} (v : View) (name expected : String) (read : ElementValue → Option α) :
    Except AccessError (List α) := do
  (← v.value name).items.mapM (v.reading name expected read)

def string (v : View) (name : String) : Except AccessError String :=
  v.scalar name "string" (·.string?)

def bool (v : View) (name : String) : Except AccessError Bool :=
  v.scalar name "boolean" (·.bool?)

/-- Any integral element that fits 32 bits. -/
def int (v : View) (name : String) : Except AccessError Int32 :=
  v.scalar name "int" (·.int?)

def long (v : View) (name : String) : Except AccessError Int64 :=
  v.scalar name "long" (·.long?)

def double (v : View) (name : String) : Except AccessError Double :=
  v.scalar name "double" (·.double?)

/-- The type name of a class literal. -/
def className (v : View) (name : String) : Except AccessError String :=
  v.scalar name "class" (·.className?)

/-- The constant of an enum element. -/
def enumConstant (v : View) (name : String) : Except AccessError String :=
  v.scalar name "enum" (·.enumConstant?)

def strings (v : View) (name : String) : Except AccessError (List String) :=
  v.arrayOf name "string[]" (·.string?)

def enumConstants (v : View) (name : String) : Except AccessError (List String) :=
  v.arrayOf name "enum[]" (·.enumConstant?)

def ints (v : View) (name : String) : Except AccessError (List Int32) :=
  v.arrayOf name "int[]" (·.exactInt?)

/-- A value read as a nested annotation, seen through a schema. -/
def nestedView? (schema : Schema) (x : ElementValue) : Option View :=
  x.attributes?.map (⟨schema, ·⟩)

/-- The view of a nested annotation through a schema of its own. -/
def nested (v : View) (name : String) (schema : Schema) : Except AccessError View :=
  v.scalar name "annotation" (nestedView? schema)

def nestedArray (v : View) (name : String) (schema : Schema) : Except AccessError (List View) :=
  v.arrayOf name "annotation[]" (nestedView? schema)

end View

end ClassCatalog
