/-
  Encoding descriptions of classes.

  Every constant is written at the end of the pool, also one that is there already,
  and what refers to it keeps its index.  The names of attributes are constants as
  well.  An attribute without content is left out.

  * `Writer.element`, `Writer.annotationItem`, `Writer.field` and their likes write a part
    of a description and give the structure that refers to the constants;
  * `Description.encode` gives the class file;
  * `Description.WellFormed` says what descriptions can be encoded without loss.
-/
import ClassCatalog.ClassFile.Decode
import ClassCatalog.ClassFile.Description

namespace ClassCatalog.ClassFile

/-- Writes constants at the end of a pool. -/
abbrev Writer (α : Type) := StateM Pool α

namespace Writer

/-! ## Constants -/

/-- Writes a constant and gives its index. -/
def constant (c : PoolConstant) : Writer Nat := do
  let p ← get
  set (Pool.mk (p.places ++ if c.isWide then [some c, none] else [some c]))
  return p.places.length + 1

def utf8 (text : String) : Writer Nat := constant (.utf8 text)

/-- Writes a class after its internal name. -/
def classRef (name : String) : Writer Nat := do
  let index ← utf8 name
  constant (.classRef index)

/-- Writes the constant of a field. -/
def fieldConstant : FieldConstant → Writer Nat
  | .int v => constant (.integer v)
  | .long v => constant (.long v)
  | .float v => constant (.float v)
  | .double v => constant (.double v)
  | .string text => do
    let index ← utf8 text
    constant (.string index)

/-! ## Annotations -/

/-- Writes a constant that stands for a scalar. -/
def scalar (kind : ScalarKind) (c : PoolConstant) : Writer Element := do
  let index ← constant c
  return .scalar kind index

mutual

/-- Writes an element. -/
def element : Description.Element → Writer Element
  | .bool v => scalar .boolean (.integer (if v then 1 else 0))
  | .byte v => scalar .byte (.integer v.toInt32)
  | .char v => scalar .char (.integer (.ofInt v.toNat))
  | .short v => scalar .short (.integer v.toInt32)
  | .int v => scalar .int (.integer v)
  | .long v => scalar .long (.long v)
  | .float v => scalar .float (.float v)
  | .double v => scalar .double (.double v)
  | .string v => scalar .string (.utf8 v)
  | .classLiteral d => scalar .classLiteral (.utf8 d)
  | .enumConstant d c => do
    let type ← utf8 d
    let constant ← utf8 c
    return .enumConstant type constant
  | .nested d ps => do
    let type ← utf8 d
    let pairs ← pairs ps
    return .nested type pairs
  | .array is => do
    let items ← items is
    return .array items

/-- Writes elements, each after its name. -/
def pairs : List (String × Description.Element) → Writer (List (Nat × Element))
  | [] => return []
  | (n, e) :: ps => do
    let name ← utf8 n
    let element ← element e
    let pairs ← pairs ps
    return (name, element) :: pairs

/-- Writes the items of an array. -/
def items : List Description.Element → Writer (List Element)
  | [] => return []
  | e :: is => do
    let element ← element e
    let items ← items is
    return element :: items

end

/-- Writes an annotation. -/
def annotationItem (a : Description.Annotation) : Writer AnnotationItem := do
  let type ← utf8 a.descriptor
  let pairs ← pairs a.pairs
  return { type, pairs }

/-! ## Attributes -/

/-- The attribute with a name, which is a constant too. -/
def named (name : String) (a : Attribute) : Writer (List Attribute) := do
  let _ ← utf8 name
  return [a]

/-- The name of an attribute for annotations of one visibility. -/
def annotationsName (visible : Bool) (kind : String) : String :=
  (if visible then "RuntimeVisible" else "RuntimeInvisible") ++ kind

/-- The attribute of a constant. -/
def constantValue : Option FieldConstant → Writer (List Attribute)
  | none => return []
  | some c => do
    let _ ← utf8 "ConstantValue"
    let index ← fieldConstant c
    return [.constantValue index]

/-- The attribute of a signature. -/
def signature : Option String → Writer (List Attribute)
  | none => return []
  | some text => do
    let _ ← utf8 "Signature"
    let index ← utf8 text
    return [.signature index]

/-- The attribute of the exceptions of a method. -/
def exceptions : List String → Writer (List Attribute)
  | [] => return []
  | names => do
    let _ ← utf8 "Exceptions"
    let classes ← names.mapM classRef
    return [.exceptions classes]

/-- The attribute of the annotations with the given visibility. -/
def annotationsOf (annotations : List Description.Annotation) (visible : Bool) :
    Writer (List Attribute) := do
  let items ← (annotations.filter (·.visible == visible)).mapM annotationItem
  if items.isEmpty then return []
  named (annotationsName visible "Annotations") (.annotations visible items)

/-- The attributes of annotations. -/
def annotations (annotations : List Description.Annotation) : Writer (List Attribute) := do
  let visible ← annotationsOf annotations true
  let invisible ← annotationsOf annotations false
  return visible ++ invisible

/-- Writes an annotation of a parameter. -/
def parameterItem (x : Nat × Description.Annotation) : Writer (Nat × AnnotationItem) := do
  let item ← annotationItem x.2
  return (x.1, item)

/-- The attribute of the parameter annotations with the given visibility: a list for
    each parameter. -/
def parameterAnnotationsOf (count : Nat) (annotations : List (Nat × Description.Annotation))
    (visible : Bool) : Writer (List Attribute) := do
  let items ← (annotations.filter (·.2.visible == visible)).mapM parameterItem
  if items.isEmpty then return []
  named (annotationsName visible "ParameterAnnotations") (.parameterAnnotations visible
    ((List.range count).map fun i => (items.filter (·.1 == i)).map (·.2)))

/-- The attributes of parameter annotations. -/
def parameterAnnotations (count : Nat) (annotations : List (Nat × Description.Annotation)) :
    Writer (List Attribute) := do
  let visible ← parameterAnnotationsOf count annotations true
  let invisible ← parameterAnnotationsOf count annotations false
  return visible ++ invisible

/-! ## Members and classes -/

/-- Writes a field. -/
def field (f : Description.Field) : Writer Member := do
  let constant ← constantValue f.decl.constant?
  let signature ← signature f.decl.signature?
  let annotations ← annotations f.annotations
  let name ← utf8 f.decl.name
  let descriptor ← utf8 f.decl.descriptor
  return {
    access := f.decl.access.mask Reader.fieldMask
    name := name
    descriptor := descriptor
    attributes := constant ++ (signature ++ annotations) }

/-- Writes a method; it has code, of which nothing is kept. -/
def method (m : Description.Method) : Writer Member := do
  let code ← named "Code" (.other "Code")
  let exceptions ← exceptions m.decl.exceptions
  let signature ← signature m.decl.signature?
  let annotations ← annotations m.annotations
  let parameters ← parameterAnnotations m.parameterCount m.parameterAnnotations
  let name ← utf8 m.decl.name
  let descriptor ← utf8 m.decl.descriptor
  return {
    access := m.decl.access.mask Reader.methodMask
    name := name
    descriptor := descriptor
    attributes := code ++ (exceptions ++ (signature ++ (annotations ++ parameters))) }

/-- Writes the super class; 0 stands for none. -/
def superClass : Option String → Writer Nat
  | none => return 0
  | some name => classRef name

/-- Writes a class; the pool of the file is yet to be put in. -/
def file (d : Description) : Writer File := do
  let thisClass ← classRef d.header.name
  let superClass ← superClass d.header.superName?
  let interfaces ← d.header.interfaces.mapM classRef
  let fields ← d.fields.mapM field
  let methods ← d.methods.mapM method
  let signature ← signature d.header.signature?
  let annotations ← annotations d.annotations
  return {
    pool := default
    access := d.header.access.mask Reader.classMask
    thisClass := thisClass
    superClass := superClass
    interfaces := interfaces
    fields := fields
    methods := methods
    attributes := signature ++ annotations }

end Writer

end ClassCatalog.ClassFile

namespace ClassCatalog.Description

open ClassFile (File Pool Reader.classMask Reader.fieldMask Reader.methodMask)

/-- The class file of a class. -/
def encode (d : Description) : File :=
  let (file, pool) := (ClassFile.Writer.file d).run ⟨[]⟩
  { file with pool }

/-- All descriptors in the element values are those of types. -/
def Annotation.Typed (a : Annotation) : Prop := PairsTyped a.pairs

/-- The access bits are ones that class files keep, parameter annotations are on
    parameters that there are, and the descriptors in element values are those of
    types. -/
structure WellFormed (d : Description) : Prop where
  access : d.header.access.mask Reader.classMask = d.header.access
  fieldAccess : ∀ f ∈ d.fields, f.decl.access.mask Reader.fieldMask = f.decl.access
  methodAccess : ∀ m ∈ d.methods, m.decl.access.mask Reader.methodMask = m.decl.access
  parameters : ∀ m ∈ d.methods, ∀ x ∈ m.parameterAnnotations, x.1 < m.parameterCount
  annotations : ∀ a ∈ d.annotations, a.Typed
  fieldAnnotations : ∀ f ∈ d.fields, ∀ a ∈ f.annotations, a.Typed
  methodAnnotations : ∀ m ∈ d.methods, ∀ a ∈ m.annotations, a.Typed
  parameterAnnotations : ∀ m ∈ d.methods, ∀ x ∈ m.parameterAnnotations, x.2.Typed

end ClassCatalog.Description
