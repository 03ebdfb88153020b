/-
  Replaying a class file as events.

  The header comes first; it names the super class, the interfaces, the class
  and its signature, which are looked up in that order.  Class annotations,
  fields and methods follow in file order.  Settings may leave out invisible
  annotations and synthetic members; what is left out is not looked at.

  `accept` delivers the events to a visitor as it looks them up, and stops at
  the first failed lookup or refused event.
-/
import ClassCatalog.ClassFile.Element
import ClassCatalog.Visitor

namespace ClassCatalog.ClassFile

/-! ## What is replayed -/

/-- The text of the first signature attribute. -/
def signature? (p : Pool) : List Attribute → Except ReplayError (Option String)
  | [] => return none
  | .signature index :: _ => do return some (← p.text index)
  | _ :: rest => signature? p rest

/-- The constant of the first constant attribute. -/
def constantOf? (p : Pool) : List Attribute → Except ReplayError (Option FieldConstant)
  | [] => return none
  | .constantValue index :: _ => constant? p index
  | _ :: rest => constantOf? p rest

/-- The names of the classes of the first exceptions attribute. -/
def exceptionsOf (p : Pool) : List Attribute → Except ReplayError (List String)
  | [] => return []
  | .exceptions classes :: _ => classes.mapM p.classText
  | _ :: rest => exceptionsOf p rest

/-- An annotation with the given visibility is to be delivered. -/
def wantsVisibility (s : Settings) (visible : Bool) : Bool := visible || s.includeInvisible

/-- A member with the given access flags is to be delivered. -/
def wantsMember (s : Settings) (m : Member) : Bool :=
  s.includeSynthetic || !m.access.contains .syntheticFlag

/-- The annotations to deliver, with their visibility. -/
def annotationsOf (s : Settings) (attributes : List Attribute) : List (AnnotationItem × Bool) :=
  attributes.flatMap fun
    | .annotations visible items => if wantsVisibility s visible then items.map (·, visible) else []
    | _ => []

/-- The parameter annotations to deliver, with the index of the parameter and
    their visibility. -/
def parameterAnnotationsOf (s : Settings) (attributes : List Attribute) :
    List (Nat × AnnotationItem × Bool) :=
  attributes.flatMap fun
    | .parameterAnnotations visible parameters =>
      if wantsVisibility s visible then
        (parameters.mapIdx fun i items => items.map fun a => (i, a, visible)).flatten
      else []
    | _ => []

/-- The header of a class. -/
def headerOf (f : File) : Except ReplayError ClassHeader := do
  let superName? ← if f.superClass = 0 then pure none else some <$> f.pool.classText f.superClass
  let interfaces ← f.interfaces.mapM f.pool.classText
  let name ← f.pool.classText f.thisClass
  let signature? ← signature? f.pool f.attributes
  return { access := f.access, name, signature?, superName?, interfaces }

/-- The declaration of a field. -/
def fieldOf (p : Pool) (m : Member) : Except ReplayError FieldDecl := do
  let name ← p.text m.name
  let descriptor ← p.text m.descriptor
  let signature? ← signature? p m.attributes
  let constant? ← constantOf? p m.attributes
  return { access := m.access, name, descriptor, signature?, constant? }

/-- The declaration of a method. -/
def methodOf (p : Pool) (m : Member) : Except ReplayError MethodDecl := do
  let name ← p.text m.name
  let descriptor ← p.text m.descriptor
  let signature? ← signature? p m.attributes
  let exceptions ← exceptionsOf p m.attributes
  return { access := m.access, name, descriptor, signature?, exceptions }

/-! ## Delivery -/

/-- A delivery to a visitor with states `σ`. -/
abbrev Delivery (σ : Type) (α : Type) := ExceptT ReplayError (StateM σ) α

namespace Delivery

variable {σ : Type} (v : Visitor σ)

/-- A lookup; nothing is delivered. -/
def lookedUp {α : Type} (r : Except ReplayError α) : Delivery σ α := ExceptT.mk (pure r)

/-- Delivers an event. -/
def event (e : Event) : Delivery σ Unit :=
  ExceptT.mk do
    let (s, r) := v.visit (← get) e
    set s
    return r.mapError .build

/-- Delivers an element value. -/
def element (name : String) (value : ElementValue) : Delivery σ Unit :=
  ExceptT.mk do
    set (v.element (← get) name value)
    return .ok ()

/-- Delivers the elements of an annotation, each looked up, name first, just
    before it is delivered. -/
def elements (p : Pool) (pairs : List (Nat × Element)) : Delivery σ Unit :=
  pairs.forM fun (name, e) => do
    let name ← lookedUp (p.text name)
    let x ← lookedUp (value p e)
    element v name x

/-- Delivers an annotation as the event that `makeEvent` makes of its descriptor. -/
def annotated (p : Pool) (a : AnnotationItem) (makeEvent : String → Event) : Delivery σ Unit := do
  let descriptor ← lookedUp (p.text a.type)
  event v (makeEvent descriptor)
  elements v p a.pairs

/-- Delivers a field with its annotations. -/
def field (s : Settings) (p : Pool) (m : Member) : Delivery σ Unit := do
  let decl ← lookedUp (fieldOf p m)
  event v (.field decl)
  (annotationsOf s m.attributes).forM fun (a, visible) =>
    annotated v p a (.fieldAnnotated · visible)

/-- Delivers a method with its annotations and those of its parameters. -/
def method (s : Settings) (p : Pool) (m : Member) : Delivery σ Unit := do
  let decl ← lookedUp (methodOf p m)
  event v (.method decl)
  (annotationsOf s m.attributes).forM fun (a, visible) =>
    annotated v p a (.methodAnnotated · visible)
  (parameterAnnotationsOf s m.attributes).forM fun (i, a, visible) =>
    annotated v p a (.parameterAnnotated i · visible)

/-- Delivers a class. -/
def file (s : Settings) (f : File) : Delivery σ Unit := do
  let header ← lookedUp (headerOf f)
  event v (.header header)
  (annotationsOf s f.attributes).forM fun (a, visible) =>
    annotated v f.pool a (.classAnnotated · visible)
  (f.fields.filter (wantsMember s)).forM (field v s f.pool)
  (f.methods.filter (wantsMember s)).forM (method v s f.pool)

end Delivery

/-- Delivers the events of a class file to a visitor: how that ends, and the
    state of the visitor afterwards. -/
def accept {σ : Type} (v : Visitor σ) (s : Settings) (f : File) (start : σ) :
    Except ReplayError Unit × σ :=
  (Delivery.file v s f).run.run start

end ClassCatalog.ClassFile
