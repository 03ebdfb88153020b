/-
  Builders of fields and methods.

  A member takes annotation events; one whose descriptor cannot be read is
  refused, and the member with it.  An accepted annotation is opened under its
  type name, and the element values that follow are recorded there.

  * `FieldBuilder.annotate`, `MethodBuilder.annotate` and
    `MethodBuilder.annotateParameter` open an annotation and give its type;
  * `capture` is an annotation with all its element values;
  * `build` gives the model, or the refusal of the first refused event.
-/
import ClassCatalog.Build.Latch
import ClassCatalog.Model.Class

namespace ClassCatalog

/-- An annotation with the element values set on it, in order. -/
structure AnnotationEvent where
  descriptor : String
  visible : Bool
  values : List (String × ElementValue)
deriving Repr, Inhabited

/-- Where the annotation of a method stands: on the method or on a parameter. -/
inductive MethodTarget where
  | method
  | parameter (index : Nat)
deriving DecidableEq, Repr

/-- The type that an annotation descriptor names. -/
def annotationType (descriptor : String) : Except BuildError String :=
  (FieldType.fieldTypeName descriptor).mapError .invalidDescriptor

/-- Opens an annotation in a scope; whether it is visible makes no difference. -/
def Scope.annotate (s : Scope) (descriptor : String) (_visible : Bool) :
    Except BuildError (Scope × String) :=
  (annotationType descriptor).map fun t => (s.start t, t)

/-- Records element values of an annotation, in order. -/
def Scope.setAll (s : Scope) (typeName : String) (values : List (String × ElementValue)) : Scope :=
  values.foldl (fun s e => s.set typeName e.1 e.2) s

/-! ## Fields -/

/-- A field being built. -/
abbrev FieldBuilder := Latched FieldModel

namespace FieldBuilder

/-- A declared field without annotations. -/
def ofDecl (owner : String) (decl : FieldDecl) : FieldBuilder := ⟨⟨owner, decl, .empty⟩, none⟩

/-- Opens an annotation. -/
def annotate (b : FieldBuilder) (descriptor : String) (visible : Bool) :
    FieldBuilder × Except BuildError String :=
  b.deliver fun f =>
    (f.annotations.annotate descriptor visible).map fun (scope, t) =>
      ({ f with annotations := scope }, t)

/-- Changes the annotations captured so far. -/
def onScope (b : FieldBuilder) (g : Scope → Scope) : FieldBuilder :=
  b.mapState fun f => { f with annotations := g f.annotations }

/-- Delivers an annotation with its element values. -/
def capture (b : FieldBuilder) (a : AnnotationEvent) : FieldBuilder × Except BuildError Unit :=
  match b.annotate a.descriptor a.visible with
  | (b, .ok t) => (b.onScope (·.setAll t a.values), .ok ())
  | (b, .error e) => (b, .error e)

/-- The finished field. -/
def build (b : FieldBuilder) : Except BuildError FieldModel := b.complete .ok

end FieldBuilder

/-! ## Methods -/

/-- A method being built. -/
abbrev MethodBuilder := Latched MethodModel

/-- Changes the annotations of a method or of one of its parameters. -/
def MethodModel.onScope (m : MethodModel) (g : Scope → Scope) : MethodTarget → MethodModel
  | .method => { m with annotations := g m.annotations }
  | .parameter i =>
    { m with parameterAnnotations := m.parameterAnnotations.put i (g (m.annotationsOfParameter i)) }

/-- The annotations of a method or of one of its parameters. -/
def MethodModel.scope (m : MethodModel) : MethodTarget → Scope
  | .method => m.annotations
  | .parameter i => m.annotationsOfParameter i

namespace MethodBuilder

/-- A declared method without annotations. -/
def ofDecl (owner : String) (decl : MethodDecl) : MethodBuilder :=
  ⟨⟨owner, decl, .empty, []⟩, none⟩

/-- Opens an annotation on the method or on a parameter. -/
def annotate (b : MethodBuilder) (target : MethodTarget) (descriptor : String) (visible : Bool) :
    MethodBuilder × Except BuildError String :=
  b.deliver fun m =>
    ((m.scope target).annotate descriptor visible).map fun (scope, t) =>
      (m.onScope (fun _ => scope) target, t)

/-- Changes the annotations captured so far on the method or on a parameter. -/
def onScope (b : MethodBuilder) (target : MethodTarget) (g : Scope → Scope) : MethodBuilder :=
  b.mapState fun m => m.onScope g target

/-- Delivers an annotation with its element values. -/
def capture (b : MethodBuilder) (target : MethodTarget) (a : AnnotationEvent) :
    MethodBuilder × Except BuildError Unit :=
  match b.annotate target a.descriptor a.visible with
  | (b, .ok t) => (b.onScope target (·.setAll t a.values), .ok ())
  | (b, .error e) => (b, .error e)

/-- The finished method. -/
def build (b : MethodBuilder) : Except BuildError MethodModel := b.complete .ok

end MethodBuilder

end ClassCatalog
