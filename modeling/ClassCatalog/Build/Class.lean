/-
  The builder of a class.

  A class takes its events in class-file order: one header, then annotations,
  fields and methods in any order.  A class of the unnamed package is refused
  at its header if the settings require a package.  Annotations of a member go
  to the member of its kind declared last.

  * `visit` delivers an event and says where the element values that follow it
    are to be recorded; `record` records one there;
  * `build` gives the model, or the refusal of the first refused event: of the
    class first, then of the fields and the methods in order of declaration.

  The builder looks at no catalog: what a class is does not depend on the
  classes built before it.
-/
import ClassCatalog.Build.Member
import ClassCatalog.Settings

namespace ClassCatalog

/-- What the header of a class fixes. -/
structure Identity where
  header : ClassHeader
  qualifiedName : String
  packageName : String
  nestedName : String
  named : qualifiedName = Name.qualified header.name
deriving Repr

/-- What was accepted of a class so far; members are newest first. -/
structure ClassDraft where
  settings : Settings
  identity? : Option Identity := none
  fields : List FieldBuilder := []
  methods : List MethodBuilder := []
  /-- The positions of the constructors among the methods, in order. -/
  constructorPositions : List Nat := []
  annotations : Scope := .empty
deriving Repr

/-- Where element values are recorded: in the annotation of a type on the
    class, on the field or method declared last, or on one of its parameters. -/
inductive Sink where
  | nowhere
  | onClass (typeName : String)
  | onField (typeName : String)
  | onMethod (target : MethodTarget) (typeName : String)
deriving DecidableEq, Repr

/-- A class being built. -/
abbrev ClassBuilder := Latched ClassDraft

/-! ## Events -/

namespace ClassDraft

/-- The identity that a header gives to a class. -/
def identify (d : ClassDraft) (h : ClassHeader) : Except BuildError Identity :=
  match d.identity? with
  | some first => .error (.duplicateHeader first.header.name h.name)
  | none =>
    let qualified := Name.qualified h.name
    match Name.split qualified with
    | some (package, nested) => .ok ⟨h, qualified, package, nested, rfl⟩
    | none =>
      if d.settings.requirePackage then .error (.missingPackage qualified)
      else .ok ⟨h, qualified, "", qualified, rfl⟩

/-- The internal name of the class, for a step that needs the header. -/
def owner (d : ClassDraft) (step : BuildStep) : Except BuildError String :=
  match d.identity? with
  | some i => .ok i.header.name
  | none => .error (.missingHeader step)

/-- Takes the header. -/
def header (d : ClassDraft) (h : ClassHeader) : Except BuildError (ClassDraft × Sink) :=
  (d.identify h).map fun i => ({ d with identity? := some i }, .nowhere)

/-- Opens an annotation of the class. -/
def annotate (d : ClassDraft) (descriptor : String) (visible : Bool) :
    Except BuildError (ClassDraft × Sink) := do
  let _ ← d.owner .annotate
  let (scope, t) ← d.annotations.annotate descriptor visible
  return ({ d with annotations := scope }, .onClass t)

/-- Takes a field. -/
def field (d : ClassDraft) (decl : FieldDecl) : Except BuildError (ClassDraft × Sink) :=
  (d.owner .field).map fun owner =>
    ({ d with fields := .ofDecl owner decl :: d.fields }, .nowhere)

/-- Takes a method and notes the position of a constructor. -/
def method (d : ClassDraft) (decl : MethodDecl) : Except BuildError (ClassDraft × Sink) :=
  (d.owner .method).map fun owner =>
    let positions :=
      if decl.isConstructor then d.constructorPositions ++ [d.methods.length]
      else d.constructorPositions
    ({ d with methods := .ofDecl owner decl :: d.methods, constructorPositions := positions },
     .nowhere)

/-- Delivers an event to the field declared last. -/
def onField (d : ClassDraft) (event : FieldBuilder → FieldBuilder) : ClassDraft :=
  { d with fields := match d.fields with
      | [] => []
      | f :: fs => event f :: fs }

/-- Delivers an event to the method declared last. -/
def onMethod (d : ClassDraft) (event : MethodBuilder → MethodBuilder) : ClassDraft :=
  { d with methods := match d.methods with
      | [] => []
      | m :: ms => event m :: ms }

/-- The model of the class. -/
def build (d : ClassDraft) : Except BuildError ClassModel :=
  match d.identity? with
  | none => .error (.missingHeader .finish)
  | some i => do
    let fields ← d.fields.reverse.mapM (·.build)
    let methods ← d.methods.reverse.mapM (·.build)
    return {
      header := i.header
      qualifiedName := i.qualifiedName
      packageName := i.packageName
      nestedName := i.nestedName
      fields := fields
      methods := methods
      constructorPositions := d.constructorPositions
      annotations := d.annotations }

end ClassDraft

namespace ClassBuilder

/-- A class of which nothing has arrived. -/
def ofSettings (settings : Settings) : ClassBuilder := ⟨{ settings }, none⟩

/-- The internal name of the class, once its header was accepted. -/
def name? (b : ClassBuilder) : Option String := b.state.identity?.map (·.header.name)

/-- Delivers an annotation to the field declared last. -/
def annotateField (b : ClassBuilder) (descriptor : String) (visible : Bool) :
    ClassBuilder × Except BuildError Sink :=
  match b.state.fields with
  | [] => (b, .ok .nowhere)
  | f :: _ =>
    let (f, r) := f.annotate descriptor visible
    (b.mapState (·.onField fun _ => f), r.map .onField)

/-- Delivers an annotation to the method declared last, or to a parameter. -/
def annotateMethod (b : ClassBuilder) (target : MethodTarget) (descriptor : String)
    (visible : Bool) : ClassBuilder × Except BuildError Sink :=
  match b.state.methods with
  | [] => (b, .ok .nowhere)
  | m :: _ =>
    let (m, r) := m.annotate target descriptor visible
    (b.mapState (·.onMethod fun _ => m), r.map (.onMethod target))

/-- Delivers an event. -/
def visit (b : ClassBuilder) : Event → ClassBuilder × Except BuildError Sink
  | .header h => b.deliver (·.header h)
  | .classAnnotated descriptor visible => b.deliver (·.annotate descriptor visible)
  | .field decl => b.deliver (·.field decl)
  | .fieldAnnotated descriptor visible => b.annotateField descriptor visible
  | .method decl => b.deliver (·.method decl)
  | .methodAnnotated descriptor visible => b.annotateMethod .method descriptor visible
  | .parameterAnnotated i descriptor visible =>
    b.annotateMethod (.parameter i) descriptor visible

/-- Records an element value. -/
def record (b : ClassBuilder) (sink : Sink) (name : String) (value : ElementValue) :
    ClassBuilder :=
  match sink with
  | .nowhere => b
  | .onClass t => b.mapState fun d => { d with annotations := d.annotations.set t name value }
  | .onField t => b.mapState (·.onField (·.onScope (·.set t name value)))
  | .onMethod target t => b.mapState (·.onMethod (·.onScope target (·.set t name value)))

/-- Records element values, in order. -/
def recordAll (b : ClassBuilder) (sink : Sink) (values : List (String × ElementValue)) :
    ClassBuilder :=
  values.foldl (fun b v => b.record sink v.1 v.2) b

/-- Delivers an event and the element values that follow it. -/
def visitWith (b : ClassBuilder) (e : Event) (values : List (String × ElementValue)) :
    ClassBuilder × Except BuildError Unit :=
  match b.visit e with
  | (b, .ok sink) => (b.recordAll sink values, .ok ())
  | (b, .error e) => (b, .error e)

/-- The model of the class. -/
def build (b : ClassBuilder) : Except BuildError ClassModel := b.complete (·.build)

end ClassBuilder

end ClassCatalog
