/-
  Sessions: runs of commands over catalogs, builders, slots and classes.

  A catalog is made when a request first names it.  All state is in the
  session, so a run is a fold of `step` over the requests.

  * `step` answers one request;
  * `run` answers a list of requests, each in the state that the earlier ones
    leave behind.
-/
import ClassCatalog.Session.Command

namespace ClassCatalog

/-- A builder, the number of the catalog that it builds for and the number of
    the slot that its header registered there. -/
structure OpenBuilder where
  catalog : Nat
  builder : ClassBuilder
  slot? : Option Nat := none
deriving Repr

/-- A slot that is kept: the number of its catalog and its own number there. -/
structure SlotRef where
  catalog : Nat
  number : Nat
deriving DecidableEq, Repr

/-- The state of a session. -/
structure Session where
  /-- The numbers of the catalogs by their names. -/
  names : Table String Nat := []
  /-- The catalogs in which something was registered. -/
  catalogs : Table Nat Catalog := []
  builders : Table String OpenBuilder := []
  slots : Table String SlotRef := []
  classes : Table String Entry := []
  /-- The number of the next catalog. -/
  nextCatalog : Nat := 0
  /-- The serial number of the next class. -/
  nextSerial : Nat := 0
  /-- The catalog that all sessions share; no command changes it. -/
  shared : Catalog := .empty
deriving Repr

namespace Session

/-! ## Catalogs -/

/-- The catalog with a number. -/
def catalog (s : Session) (n : Nat) : Catalog := (s.catalogs.get? n).getD .empty

/-- Replaces the catalog with a number. -/
def setCatalog (s : Session) (n : Nat) (c : Catalog) : Session :=
  { s with catalogs := s.catalogs.put n c }

/-- The number of the catalog with a name; a new name gets a new, empty
    catalog. -/
def openCatalog (s : Session) (name : String) : Session × Nat :=
  match s.names.get? name with
  | some n => (s, n)
  | none =>
    let n := s.nextCatalog
    ({ s with names := s.names.put name n, nextCatalog := n + 1 }, n)

/-! ## Builders -/

/-- Delivers an event to a builder; an accepted header registers the class. -/
def deliver (s : Session) (id : String) (b : OpenBuilder) (e : Event)
    (values : List (String × ElementValue)) : Session × OpenBuilder × Except BuildError Unit :=
  let (builder, r) := b.builder.visitWith e values
  let (c, slot?) := (s.catalog b.catalog).afterEvent b.slot? e r
  let b := { b with builder, slot? }
  let s := { s with builders := s.builders.put id b }
  (s.setCatalog b.catalog c, b, r)

/-- Delivers the annotations of the member declared last. -/
def deliverAll (s : Session) (id : String) (b : OpenBuilder) :
    List (Event × List (String × ElementValue)) → Session × List (Except BuildError Unit)
  | [] => (s, [])
  | (e, values) :: events =>
    let (s, b, r) := s.deliver id b e values
    let (s, rs) := s.deliverAll id b events
    (s, r :: rs)

/-- Delivers a member and, if it is accepted, its annotations. -/
def deliverMember (s : Session) (id : String) (b : OpenBuilder) (e : Event)
    (annotations : List (Event × List (String × ElementValue))) : Session × Reply :=
  match s.deliver id b e [] with
  | (s, _, .error error) => (s, .member (.error error))
  | (s, b, .ok ()) =>
    let (s, rs) := s.deliverAll id b annotations
    (s, .member (.ok rs))

/-- The annotation of a field as an event. -/
def fieldEvent (a : AnnotationEvent) : Event × List (String × ElementValue) :=
  (.fieldAnnotated a.descriptor a.visible, a.values)

/-- The annotation of a method or parameter as an event. -/
def methodEvent : MethodTarget × AnnotationEvent → Event × List (String × ElementValue)
  | (.method, a) => (.methodAnnotated a.descriptor a.visible, a.values)
  | (.parameter i, a) => (.parameterAnnotated i a.descriptor a.visible, a.values)

/-- Ends the build of a class in the builder's own catalog. -/
def finish (s : Session) (id : String) (b : OpenBuilder) : Session × Except BuildError Entry :=
  let result := (s.catalog b.catalog).finish b.slot? s.nextSerial b.builder
  let s := { s with builders := s.builders.erase id, nextSerial := s.nextSerial + 1 }
  match result with
  | .error e => (s, .error e)
  | .ok (c, entry) =>
    ({ s.setCatalog b.catalog c with classes := s.classes.put id entry }, .ok entry)

/-! ## Class files -/

/-- Reads a class file into a catalog. -/
def read (s : Session) (n : Nat) (id : String) (bytes : List UInt8) (settings : Settings) :
    Session × Except ClassFile.ReadError Entry :=
  let (c, r) := ClassFile.read settings s.nextSerial (s.catalog n) bytes
  let s := { s.setCatalog n c with nextSerial := s.nextSerial + 1 }
  match r with
  | .error e => (s, .error e)
  | .ok entry => ({ s with classes := s.classes.put id entry }, .ok entry)

/-- Reads class files into a catalog. -/
def readAll (s : Session) (n : Nat) (batch : List (List UInt8)) (settings : Settings)
    (schedule : List Nat) : Session × List (Except ClassFile.ReadError Entry) :=
  let (c, rs) := ClassFile.readAll settings s.nextSerial (s.catalog n) batch schedule
  ({ s.setCatalog n c with nextSerial := s.nextSerial + batch.length }, rs)

end Session

/-! ## Parts of a class -/

namespace ClassModel

/-- The annotations of a part of a class. -/
def scope? (c : ClassModel) : Target → Option Scope
  | .onClass | .inherited => some c.annotations
  | .onField i => c.fields[i]?.map (·.annotations)
  | .onMethod i => c.methods[i]?.map (·.annotations)
  | .onParameter m i => do
    let parameters ← (← c.methods[m]?).parameters.toOption
    return (← parameters[i]?).annotations

/-- The internal name of the class that declares a member. -/
def owner? (c : ClassModel) : Target → Option String
  | .onField i => c.fields[i]?.map (·.owner)
  | .onMethod i => c.methods[i]?.map (·.owner)
  | _ => none

/-- The view of the annotation of the schema's type on a part of a class. -/
def view? (c : ClassModel) (schema : Schema) : Target → Option View
  | .inherited => c.inheritedView? schema
  | t => (c.scope? t).bind (·.view? schema)

end ClassModel

/-! ## Commands -/

namespace Session

/-- A slot as the catalog has it now. -/
def slotNow (s : Session) (r : SlotRef) : Option Slot :=
  (s.catalog r.catalog).slotAt? r.number

/-- Does what is asked of the catalog with number `n`. -/
def perform (s : Session) (n : Nat) : Command → Session × Reply
  | .nameCatalog name => ({ s with names := s.names.put name n }, .done)
  | .register identity id =>
    let (c, number) := (s.catalog n).register identity
    let s := s.setCatalog n c
    let ref : SlotRef := ⟨n, number⟩
    ({ s with slots := s.slots.put id ref },
     match s.slotNow ref with
     | some slot => .slot slot
     | none => .unknown)
  | .keptSlot id =>
    (s, match (s.slots.get? id).bind s.slotNow with
        | some slot => .slot slot
        | none => .unknown)
  | .slot identity => (s, .slot? ((s.catalog n).slot? identity))
  | .sameSlot first second =>
    let c := s.catalog n
    (s, .same? (match c.number? first, c.number? second with
      | some a, some b => some (a == b)
      | _, _ => none))
  | .contains identity => (s, .flag ((s.catalog n).contains identity))
  | .resolve identity =>
    (s, .name? (((s.catalog n).resolve? identity).map (·.model.qualifiedName)))
  | .describe =>
    let c := s.catalog n
    (s, .catalog c.size (c.built.map (·.model.qualifiedName)))
  | .describeShared => (s, .shared s.shared.size true)
  | .newBuilder id settings =>
    ({ s with builders := s.builders.put id { catalog := n, builder := .ofSettings settings } },
     .done)
  | .dropBuilder id =>
    ({ s with builders := s.builders.erase id }, .flag (s.builders.contains id))
  | .header id h =>
    match s.builders.get? id with
    | none => (s, .unknown)
    | some b =>
      let (s, _, r) := s.deliver id b (.header h) []
      (s, .event r)
  | .annotate id a =>
    match s.builders.get? id with
    | none => (s, .unknown)
    | some b =>
      let (s, _, r) := s.deliver id b (.classAnnotated a.descriptor a.visible) a.values
      (s, .event r)
  | .field id decl annotations =>
    match s.builders.get? id with
    | none => (s, .unknown)
    | some b => s.deliverMember id b (.field decl) (annotations.map fieldEvent)
  | .method id decl annotations =>
    match s.builders.get? id with
    | none => (s, .unknown)
    | some b => s.deliverMember id b (.method decl) (annotations.map methodEvent)
  | .builderState id =>
    (s, match s.builders.get? id with
        | none => .unknown
        | some b => .builder b.builder.name? b.builder.failure?)
  | .finish id =>
    match s.builders.get? id with
    | none => (s, .unknown)
    | some b =>
      let (s, r) := s.finish id b
      (s, .finished r)
  | .read id bytes settings =>
    let (s, r) := s.read n id bytes settings
    (s, .read r)
  | .readAll batch settings schedule =>
    let (s, rs) := s.readAll n batch settings schedule
    (s, .readAll rs)
  | .isPublished id =>
    (s, match s.classes.get? id with
        | none => .unknown
        | some e =>
          .flag (((s.catalog n).resolve? e.model.name).any (·.serial == e.serial)))
  | .declaringClass id target =>
    (s, match s.classes.get? id with
        | none => .unknown
        | some e =>
          .name? (((e.model.owner? target).bind (s.catalog n).resolve?).map
            (·.model.qualifiedName)))
  | .isAnnotated id target typeName =>
    (s, match (s.classes.get? id).bind (·.model.scope? target) with
        | none => .unknown
        | some scope => .flag (scope.has typeName))
  | .view id target schema =>
    (s, match s.classes.get? id with
        | none => .unknown
        | some e => .view? (e.model.view? schema target))

/-- Answers a request. -/
def step (s : Session) (r : Request) : Session × Reply :=
  let (s, n) := s.openCatalog r.catalog
  s.perform n r.command

/-- Answers requests one after the other. -/
def run (s : Session) : List Request → Session × List Reply
  | [] => (s, [])
  | r :: requests =>
    let (s, reply) := s.step r
    let (s, replies) := s.run requests
    (s, reply :: replies)

end Session

end ClassCatalog
