/-
  Models: what is known of a class once it is built.  References to other
  classes (super class, interfaces, types) are names.

  A model of a field or method records the internal name of the class that
  declares it.  The constructors of a class are given by their positions among
  its methods, for they are those very methods.
-/
import ClassCatalog.Declaration
import ClassCatalog.Annotations.Scope
import ClassCatalog.FieldType.Descriptor

namespace ClassCatalog

/-- A built field. -/
structure FieldModel where
  owner : String
  decl : FieldDecl
  annotations : Scope
deriving Repr, Inhabited

/-- A built method.  The annotations of its parameters are kept by index. -/
structure MethodModel where
  owner : String
  decl : MethodDecl
  annotations : Scope
  parameterAnnotations : Table Nat Scope
deriving Repr, Inhabited

/-- A parameter of a method. -/
structure ParameterModel where
  index : Nat
  typeName : String
  annotations : Scope
deriving Repr, Inhabited

/-- A built class. -/
structure ClassModel where
  header : ClassHeader
  qualifiedName : String
  /-- Empty for the unnamed package. -/
  packageName : String
  nestedName : String
  fields : List FieldModel
  /-- All methods in order of declaration, constructors included. -/
  methods : List MethodModel
  constructorPositions : List Nat
  annotations : Scope
deriving Repr, Inhabited

/-- The name of constructors. -/
def constructorName : String := "<init>"

/-- The name of static initializers. -/
def staticInitializerName : String := "<clinit>"

/-! ## Fields -/

namespace FieldModel

/-- The name of the type of a field. -/
def typeName (f : FieldModel) : Except DescriptorError String :=
  FieldType.fieldTypeName f.decl.descriptor

def isPublic (f : FieldModel) : Bool := f.decl.access.contains .publicFlag
def isStatic (f : FieldModel) : Bool := f.decl.access.contains .staticFlag
def isFinal (f : FieldModel) : Bool := f.decl.access.contains .finalFlag
def isVolatile (f : FieldModel) : Bool := f.decl.access.contains .volatileFlag
def isSynthetic (f : FieldModel) : Bool := f.decl.access.contains .syntheticFlag

end FieldModel

/-! ## Methods -/

/-- The declaration is one of a constructor. -/
def MethodDecl.isConstructor (d : MethodDecl) : Bool := d.name == constructorName

namespace MethodModel

/-- The qualified name of the owner, `.` and the name of the method. -/
def qualifiedName (m : MethodModel) : String := Name.qualified m.owner ++ "." ++ m.decl.name

/-- The name of the return type. -/
def returnType (m : MethodModel) : Except DescriptorError String :=
  (FieldType.methodTypes m.decl.descriptor).map (·.1)

/-- The names of the parameter types. -/
def parameterTypes (m : MethodModel) : Except DescriptorError (List String) :=
  (FieldType.methodTypes m.decl.descriptor).map (·.2)

/-- The annotations of the parameter at an index. -/
def annotationsOfParameter (m : MethodModel) (index : Nat) : Scope :=
  (m.parameterAnnotations.get? index).getD .empty

/-- The parameters in order of declaration. -/
def parameters (m : MethodModel) : Except DescriptorError (List ParameterModel) :=
  m.parameterTypes.map fun types =>
    types.mapIdx fun i t => ⟨i, t, m.annotationsOfParameter i⟩

def isConstructor (m : MethodModel) : Bool := m.decl.isConstructor
def isStaticInitializer (m : MethodModel) : Bool := m.decl.name == staticInitializerName
def isPublic (m : MethodModel) : Bool := m.decl.access.contains .publicFlag
def isAbstract (m : MethodModel) : Bool := m.decl.access.contains .abstractFlag
def isStatic (m : MethodModel) : Bool := m.decl.access.contains .staticFlag
def isFinal (m : MethodModel) : Bool := m.decl.access.contains .finalFlag
def isSynchronized (m : MethodModel) : Bool := m.decl.access.contains .synchronizedFlag
def isStrict (m : MethodModel) : Bool := m.decl.access.contains .strictFlag
def isVarargs (m : MethodModel) : Bool := m.decl.access.contains .varargsFlag
def isSynthetic (m : MethodModel) : Bool := m.decl.access.contains .syntheticFlag

end MethodModel

/-! ## Classes -/

namespace ClassModel

/-- The internal name. -/
def name (c : ClassModel) : String := c.header.name

/-- The constructors in order of declaration. -/
def constructors (c : ClassModel) : List MethodModel :=
  c.constructorPositions.filterMap (c.methods[·]?)

/-- The built super classes: none, for super classes are kept as names. -/
def superclasses (_ : ClassModel) : List ClassModel := []

/-- The text that stands for a class. -/
def display (c : ClassModel) : String := c.qualifiedName

/-- The annotation of the schema's type on the class or on a super class.
    Super classes are not searched, for they are kept as names. -/
def inheritedView? (c : ClassModel) (schema : Schema) : Option View := c.annotations.view? schema

def isPublic (c : ClassModel) : Bool := c.header.access.contains .publicFlag
def isAbstract (c : ClassModel) : Bool := c.header.access.contains .abstractFlag
def isStrict (c : ClassModel) : Bool := c.header.access.contains .strictFlag
def isFinal (c : ClassModel) : Bool := c.header.access.contains .finalFlag
def isInterface (c : ClassModel) : Bool := c.header.access.contains .interfaceFlag
def isAnnotationType (c : ClassModel) : Bool := c.header.access.contains .annotationFlag
def isEnum (c : ClassModel) : Bool := c.header.access.contains .enumFlag

end ClassModel

end ClassCatalog
