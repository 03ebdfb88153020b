/-
  Descriptions of classes: what a source file says of a class, before there are
  constant pools and indices.

  * `Description` is a class with its members and annotations; the types in element
    values are given by descriptors;
  * `Description.script` is the class as a visitor is given it: its header, its
    annotations, then the members with theirs, and element values with the names
    of their types;
  * `Description.grouped` has the annotations in the order of a class file: those
    that are visible at run time first, those of parameters parameter by
    parameter.
-/
import ClassCatalog.Visitor

namespace ClassCatalog

namespace Description

/-! ## Element values -/

/-- The value of an annotation element. -/
inductive Element where
  | bool (value : Bool)
  | byte (value : Int8)
  | char (value : Char)
  | short (value : Int16)
  | int (value : Int32)
  | long (value : Int64)
  | float (value : Single)
  | double (value : Double)
  | string (value : String)
  | classLiteral (descriptor : String)
  | enumConstant (descriptor constant : String)
  | nested (descriptor : String) (pairs : List (String × Element))
  | array (items : List Element)
deriving Repr, Inhabited

/-- The name of the type with a descriptor; `V` is the descriptor of `void`. -/
def typeName (descriptor : String) : String :=
  if descriptor = "V" then "void" else (FieldType.fieldTypeName descriptor).toOption.getD descriptor

/-- The descriptor is that of a type. -/
def NamesType (descriptor : String) : Prop :=
  descriptor = "V" ∨ ∃ t, FieldType.fieldTypeName descriptor = .ok t

mutual

/-- The value with the names of its types. -/
def Element.value : Element → ElementValue
  | .bool v => .bool v
  | .byte v => .byte v
  | .char v => .char v
  | .short v => .short v
  | .int v => .int v
  | .long v => .long v
  | .float v => .float v
  | .double v => .double v
  | .string v => .string v
  | .classLiteral d => .classLiteral (typeName d)
  | .enumConstant d c => .enumConstant (typeName d) c
  | .nested d pairs => .nested (typeName d) (Table.ofPuts (pairValues pairs))
  | .array items => .array (itemValues items)

/-- The values of elements, by name. -/
def pairValues : List (String × Element) → List (String × ElementValue)
  | [] => []
  | (name, e) :: pairs => (name, e.value) :: pairValues pairs

/-- The values of the items of an array. -/
def itemValues : List Element → List ElementValue
  | [] => []
  | e :: items => e.value :: itemValues items

end

mutual

/-- All descriptors in the value are those of types. -/
def Element.Typed : Element → Prop
  | .classLiteral d => NamesType d
  | .enumConstant d _ => NamesType d
  | .nested d pairs => NamesType d ∧ PairsTyped pairs
  | .array items => ItemsTyped items
  | _ => True

def PairsTyped : List (String × Element) → Prop
  | [] => True
  | (_, e) :: pairs => e.Typed ∧ PairsTyped pairs

def ItemsTyped : List Element → Prop
  | [] => True
  | e :: items => e.Typed ∧ ItemsTyped items

end

/-! ## Annotations and members -/

/-- An annotation with its elements, in order. -/
structure Annotation where
  descriptor : String
  visible : Bool
  pairs : List (String × Element)
deriving Repr, Inhabited

/-- What a visitor is given of an annotation, as the event that `makeEvent` makes of
    its descriptor and visibility. -/
def Annotation.script (a : Annotation) (makeEvent : String → Bool → Event) : List Recorded :=
  .event (makeEvent a.descriptor a.visible) ::
    (pairValues a.pairs).map fun (name, value) => .element name value

/-- A field with its annotations. -/
structure Field where
  decl : FieldDecl
  annotations : List Annotation
deriving Repr, Inhabited

def Field.script (f : Field) : List Recorded :=
  .event (.field f.decl) :: f.annotations.flatMap (·.script .fieldAnnotated)

/-- A method with its annotations, and those of its parameters with the index of the
    parameter. -/
structure Method where
  decl : MethodDecl
  annotations : List Annotation
  parameterAnnotations : List (Nat × Annotation)
deriving Repr, Inhabited

def Method.script (m : Method) : List Recorded :=
  .event (.method m.decl) :: m.annotations.flatMap (·.script .methodAnnotated) ++
    m.parameterAnnotations.flatMap fun (i, a) => a.script (.parameterAnnotated i)

/-- The number of parameters in the descriptor of a method. -/
def Method.parameterCount (m : Method) : Nat :=
  match FieldType.readMethod m.decl.descriptor with
  | .ok (parameters, _) => parameters.length
  | .error _ => 0

end Description

/-! ## Classes -/

/-- A class with its annotations and members. -/
structure Description where
  header : ClassHeader
  annotations : List Description.Annotation
  fields : List Description.Field
  methods : List Description.Method
deriving Repr, Inhabited

namespace Description

/-- What a visitor is given of a class. -/
def script (d : Description) : List Recorded :=
  .event (.header d.header) :: d.annotations.flatMap (·.script .classAnnotated) ++
    d.fields.flatMap (·.script) ++ d.methods.flatMap (·.script)

/-! ## The order of a class file -/

/-- The visible annotations before the others. -/
def group (annotations : List Annotation) : List Annotation :=
  annotations.filter (·.visible) ++ annotations.filter (!·.visible)

/-- The visible annotations before the others, and those of each visibility in order
    of the parameters. -/
def groupParameters (count : Nat) (annotations : List (Nat × Annotation)) :
    List (Nat × Annotation) :=
  [true, false].flatMap fun visible => (List.range count).flatMap fun i =>
    annotations.filter fun (j, a) => a.visible == visible && j == i

def Field.grouped (f : Field) : Field := { f with annotations := group f.annotations }

def Method.grouped (m : Method) : Method :=
  { m with
    annotations := group m.annotations
    parameterAnnotations := groupParameters m.parameterCount m.parameterAnnotations }

/-- The class with its annotations in the order of a class file. -/
def grouped (d : Description) : Description :=
  { d with
    annotations := group d.annotations
    fields := d.fields.map (·.grouped)
    methods := d.methods.map (·.grouped) }

end Description

end ClassCatalog
