/-
  Class files of descriptions give their descriptions back.

  * `writes_file`: the encoding of a description has its header, annotations and
    members, in the pool that it leaves;
  * `follows_annotated` and its likes: what is delivered of each of these is what the
    description says;
  * `replay_encode`: to replay the encoding of a class is to give a visitor the class
    itself.
-/
import ClassCatalog.Proofs.Construction
import ClassCatalog.Proofs.Encoding

namespace ClassCatalog

namespace ClassFile

/-! ## The encoding of a class -/

namespace Writer

theorem writes_superClass (name? : Option String) :
    Writes (superClass name?) fun q i =>
      (if i = 0 then pure none else some <$> q.classText i) = Except.ok name? := by
  cases name? with
  | none => exact .pure fun _ => rfl
  | some name =>
    refine (writes_classRef name).imp fun q i hi => ?_
    rw [if_neg hi.1, hi.2]
    rfl

/-- With the pool the file has the header, annotations and members of the class. -/
structure RendersClass (q : Pool) (f : File) (d : Description) : Prop where
  header : headerOf { f with pool := q } = .ok d.header
  annotations : List.Forall₂ (Renders q) (ClassFile.annotationsOf {} f.attributes)
    (Description.group d.annotations)
  fields : List.Forall₂ (RendersField q) f.fields d.fields
  methods : List.Forall₂ (RendersMethod q) f.methods d.methods

theorem writes_file {d : Description} (hd : d.WellFormed) :
    Writes (file d) fun q f => RendersClass q f d := by
  refine (writes_classRef d.header.name).bind fun thisClass =>
    (writes_superClass d.header.superName?).bind fun superClass =>
    (writes_classes d.header.interfaces).bind fun interfaces =>
    (Writes.mapM fun f hf =>
      writes_field (hd.fieldAccess f hf) (hd.fieldAnnotations f hf)).bind fun fields =>
    (Writes.mapM fun m hm => writes_method (hd.methodAccess m hm) (hd.methodAnnotations m hm)
      (hd.parameterAnnotations m hm)).bind fun methods =>
    (writes_signature d.header.signature?).bind fun ss =>
    (writes_annotations hd.annotations).bind fun as =>
    .pure fun q ha hs hmethods hfields hinterfaces hsuper hthis => ?_
  have hkinds (k : AttributeKind) : ofKind k (ss ++ as) =
      (if .signature = k then ss else []) ++ if .annotations = k then as else [] := by
    rw [ofKind_append, hs.1.ofKind_eq, ha.1.ofKind_eq]
  have hsignature : signature? q (ss ++ as) = .ok d.header.signature? := by
    rw [← signature?_ofKind, hkinds]
    simpa using hs.2
  refine ⟨?_, ?_, hfields, hmethods⟩
  · rw [headerOf_eq, superNameOf]
    dsimp only
    rw [hsuper, hinterfaces, hthis.2, hsignature]
    exact congrArg (fun access => Except.ok { d.header with access }) hd.access
  · rw [← annotationsOf_ofKind, hkinds]
    simpa using ha.2

end Writer

theorem rendersClass_encode {d : Description} (hd : d.WellFormed) :
    Writer.RendersClass d.encode.pool d.encode d := by
  obtain ⟨-, h⟩ := Writer.writes_file hd ⟨[]⟩
  obtain ⟨hh, ha, hf, hm⟩ := h _ (.refl _)
  exact ⟨hh, ha, hf, hm⟩

/-! ## The delivery of a class -/

namespace Delivery

open Writer (Reads Renders RendersAt RendersField RendersMethod)

variable {σ : Type} (v : Visitor σ) {q : Pool}

theorem follows_elements {xs : List (Nat × Element)} {ys : List (String × ElementValue)}
    (h : Reads q xs ys) :
    Follows v (elements v q xs) (ys.map fun (name, value) => .element name value) (.ok ()) := by
  rw [List.map_eq_flatMap]
  refine Follows.forM (List.Forall₂.imp (fun x y hxy => ?_) h)
  dsimp only
  rw [hxy.1, hxy.2]
  exact (Follows.lookedUp v _).bind ((Follows.lookedUp v _).bind (.element v y.1 y.2))

theorem follows_annotated {x : AnnotationItem × Bool} {a : Description.Annotation}
    (h : Renders q x a) (makeEvent : String → Bool → Event) :
    Follows v (annotated v q x.1 (makeEvent · x.2)) (a.script makeEvent) (.ok ()) := by
  rw [annotated, h.type, h.visible]
  exact (Follows.lookedUp v _).bind ((Follows.event v _).bind (follows_elements v h.pairs))

theorem follows_annotations {xs : List (AnnotationItem × Bool)}
    {as : List Description.Annotation} (h : List.Forall₂ (Renders q) xs as)
    (makeEvent : String → Bool → Event) :
    Follows v (xs.forM fun (x, visible) => annotated v q x (makeEvent · visible))
      (as.flatMap (·.script makeEvent)) (.ok ()) :=
  Follows.forM (h.imp fun _ _ hx => follows_annotated v hx makeEvent)

theorem follows_field {m : Member} {f : Description.Field} (h : RendersField q m f) :
    Follows v (field v {} q m) f.grouped.script (.ok ()) := by
  rw [field, h.decl]
  exact (Follows.lookedUp v _).bind ((Follows.event v _).bind
    (follows_annotations v h.annotations .fieldAnnotated))

theorem follows_method {x : Member} {m : Description.Method} (h : RendersMethod q x m) :
    Follows v (method v {} q x) m.grouped.script (.ok ()) := by
  rw [method, h.decl]
  refine (Follows.lookedUp v _).bind ((Follows.event v _).bind
    ((follows_annotations v h.annotations .methodAnnotated).bind ?_))
  refine Follows.forM (h.parameterAnnotations.imp fun y z hyz => ?_)
  dsimp only
  rw [hyz.1]
  exact follows_annotated v hyz.2 (.parameterAnnotated z.1)

/-- By default all members are delivered. -/
theorem filter_wantsMember (members : List Member) : members.filter (wantsMember {}) = members :=
  List.filter_eq_self.2 fun _ _ => rfl

theorem follows_file {d : Description} (hd : d.WellFormed) :
    Follows v (file v {} d.encode) d.grouped.script (.ok ()) := by
  obtain ⟨hheader, hannotations, hfields, hmethods⟩ := rendersClass_encode hd
  have hfield : List.Forall₂ (fun m f => Follows v (field v {} d.encode.pool m) f.script (.ok ()))
      d.encode.fields d.grouped.fields :=
    List.forall₂_map_right_iff.2 (hfields.imp fun _ _ h => follows_field v h)
  have hmethod : List.Forall₂ (fun x m => Follows v (method v {} d.encode.pool x) m.script (.ok ()))
      d.encode.methods d.grouped.methods :=
    List.forall₂_map_right_iff.2 (hmethods.imp fun _ _ h => follows_method v h)
  rw [file, hheader, filter_wantsMember, filter_wantsMember, Description.script, List.append_assoc]
  exact (Follows.lookedUp v _).bind ((Follows.event v _).bind
    ((follows_annotations v hannotations .classAnnotated).bind
      ((Follows.forM hfield).bind (Follows.forM hmethod))))

end Delivery

theorem accept_encode {σ : Type} (v : Visitor σ) {d : Description} (hd : d.WellFormed) (start : σ) :
    accept v {} d.encode start =
      ((v.feed start d.grouped.script).2.mapError .build, (v.feed start d.grouped.script).1) := by
  refine (Delivery.follows_file v hd start).trans ?_
  rcases v.feed start d.grouped.script with ⟨t, error | u⟩ <;> rfl

end ClassFile

/-! ## Building -/

namespace Construction

/-- Gives a construction what was recorded of a class, and finishes it unless
    something is refused. -/
def build (k : Construction) (n : Nat) (script : List Recorded) :
    Catalog × Except BuildError Entry :=
  match visitor.feed k script with
  | (k, .ok ()) => k.finish n
  | (k, .error error) => (k.catalog, .error error)

/-- Replays a class file to a construction, and finishes it unless that fails. -/
def replay (k : Construction) (n : Nat) (s : Settings) (f : ClassFile.File) :
    Catalog × Except ClassFile.ReplayError Entry :=
  match ClassFile.accept visitor s f k with
  | (.ok (), k) => ((k.finish n).1, (k.finish n).2.mapError .build)
  | (.error error, k) => (k.catalog, .error error)

end Construction

/-- **Round trip.**  Let a class be encoded into a class file.  To replay the file to a
    visitor is to give the visitor the class, with its annotations in the order of a
    class file and nothing else changed: the visitor ends in the same state, and the
    replay fails only with what the visitor refuses.  So a builder that the file is
    replayed to ends with the same class, or with the same error, as one that is given
    the class. -/
theorem Description.replay_encode {d : Description} (hd : d.WellFormed) :
    d.Reorders d.grouped ∧ (d.FileOrdered → d.grouped = d) ∧
    (∀ {σ : Type} (v : Visitor σ) (start : σ),
      let given := v.feed start d.grouped.script
      ClassFile.accept v {} d.encode start = (given.2.mapError .build, given.1)) ∧
    ∀ (k : Construction) (n : Nat),
      let built := k.build n d.grouped.script
      k.replay n {} d.encode = (built.1, built.2.mapError .build) := by
  refine ⟨grouped_reorders hd, grouped_of_fileOrdered hd,
    fun v start => ClassFile.accept_encode v hd start, fun k n => ?_⟩
  rw [Construction.replay, ClassFile.accept_encode Construction.visitor hd k, Construction.build]
  rcases Construction.visitor.feed k d.grouped.script with ⟨t, error | u⟩ <;> rfl

namespace Description

/-- An annotation with an array, an enum constant, a class literal and a nested
    annotation. -/
def route : Annotation where
  descriptor := "Lweb/Route;"
  visible := true
  pairs := [("path", .string "/greet"), ("methods", .array [.enumConstant "Lweb/Method;" "GET"]),
    ("limit", .nested "Lweb/Limit;" [("perMinute", .int 60), ("of", .classLiteral "[I")])]

theorem route_typed : route.Typed := by
  have hmethod : NamesType "Lweb/Method;" := Or.inr ⟨"web.Method", by decide⟩
  have hlimit : NamesType "Lweb/Limit;" := Or.inr ⟨"web.Limit", by decide⟩
  have hof : NamesType "[I" := Or.inr ⟨"int[]", by decide⟩
  exact ⟨trivial, ⟨hmethod, trivial⟩, ⟨hlimit, trivial, hof, trivial⟩, trivial⟩

/-- An annotation that is not visible at run time. -/
def note : Annotation := { descriptor := "Lweb/Note;", visible := false, pairs := [] }

/-- A class with annotations everywhere, none of them in the order of a class file. -/
def greeting : Description where
  header := {
    access := ⟨0x21⟩
    name := "web/Greeting"
    signature? := none
    superName? := some "java/lang/Object"
    interfaces := ["web/Page"] }
  annotations := [note, route]
  fields := [{
    decl := {
      access := ⟨0x12⟩
      name := "count"
      descriptor := "J"
      signature? := none
      constant? := some (.long 0) }
    annotations := [note, route] }]
  methods := [{
    decl := {
      access := ⟨0x01⟩
      name := "greet"
      descriptor := "(IJ)V"
      signature? := some "(TK;J)V"
      exceptions := ["java/io/IOException"] }
    annotations := [note, route]
    parameterAnnotations := [(1, route), (0, note), (0, route)] }]

theorem greeting_wellFormed : greeting.WellFormed := by
  have hboth : ∀ a ∈ [note, route], a.Typed :=
    List.forall_mem_cons.2 ⟨trivial, List.forall_mem_singleton.2 route_typed⟩
  have hparameters : ∀ x ∈ [(1, route), (0, note), (0, route)], x.1 < 2 ∧ x.2.Typed :=
    List.forall_mem_cons.2 ⟨⟨by decide, route_typed⟩, List.forall_mem_cons.2
      ⟨⟨by decide, trivial⟩, List.forall_mem_singleton.2 ⟨by decide, route_typed⟩⟩⟩
  exact {
    access := rfl
    fieldAccess := List.forall_mem_singleton.2 rfl
    methodAccess := List.forall_mem_singleton.2 rfl
    parameters := List.forall_mem_singleton.2 fun x hx => (hparameters x hx).1
    annotations := hboth
    fieldAnnotations := List.forall_mem_singleton.2 hboth
    methodAnnotations := List.forall_mem_singleton.2 hboth
    parameterAnnotations := List.forall_mem_singleton.2 fun x hx => (hparameters x hx).2 }

/-- The class is built, from its file as from its description. -/
theorem replay_encode_greeting :
    greeting.WellFormed ∧
    let built := (Construction.start .empty {}).build 0 greeting.grouped.script
    built.2.isOk = true ∧
      (Construction.start .empty {}).replay 0 {} greeting.encode =
        (built.1, built.2.mapError .build) :=
  ⟨greeting_wellFormed, by decide, (replay_encode greeting_wellFormed).2.2.2 _ 0⟩

end Description

end ClassCatalog
