/-
  A built class, put together from the events of each kind.

  * `Scope.ofEvents`, `FieldModel.ofEvents`, `MethodModel.ofEvents`: what accepted
    annotation events make of the class, of a field and of a method; by
    `MethodModel.scope_ofEvents` each parameter has those delivered to it;
  * `ClassModel.ofKinds`: the class that a header, its annotations, its fields and its
    methods make;
  * `Assembles`: each event of a class adds to its own kind only, so a run of them leaves
    just that (`Assembles.foldl`);
  * `Session.class_by_kind`: hence a built class depends on the order of events within
    each kind, and not on how the kinds are interleaved.
-/
import ClassCatalog.Proofs.Coherence
import ClassCatalog.Proofs.Latching
import Mathlib.Data.List.Induction

namespace ClassCatalog

/-! ## Events by kind -/

namespace ClassEvent

/-- The event of an annotation of the class. -/
def annotation? : ClassEvent → Option AnnotationEvent
  | annotated a => some a
  | _ => none

/-- The event of a field. -/
def field? : ClassEvent → Option (FieldDecl × List AnnotationEvent)
  | field decl annotations => some (decl, annotations)
  | _ => none

/-- The event of a method. -/
def method? : ClassEvent → Option (MethodDecl × List (MethodTarget × AnnotationEvent))
  | method decl annotations => some (decl, annotations)
  | _ => none

end ClassEvent

/-- The annotations of a method that stand on one target. -/
def deliveredTo (target : MethodTarget) (annotations : List (MethodTarget × AnnotationEvent)) :
    List AnnotationEvent :=
  (annotations.filter (·.1 = target)).map (·.2)

theorem deliveredTo_cons (target : MethodTarget) (x : MethodTarget × AnnotationEvent)
    (annotations : List (MethodTarget × AnnotationEvent)) :
    deliveredTo target (x :: annotations) =
      if x.1 = target then x.2 :: deliveredTo target annotations
      else deliveredTo target annotations := by
  unfold deliveredTo
  by_cases h : x.1 = target <;> simp [h]

/-! ## Annotations -/

namespace Scope

/-- Takes an annotation whose descriptor names a type. -/
def capture (s : Scope) (a : AnnotationEvent) : Scope :=
  match annotationType a.descriptor with
  | .ok t => (s.start t).setAll t a.values
  | .error _ => s

/-- The annotations of one element, in order. -/
def ofEvents (annotations : List AnnotationEvent) : Scope := annotations.foldl capture .empty

theorem capture_of_type {a : AnnotationEvent} {t : String} (h : annotationType a.descriptor = .ok t)
    (s : Scope) : s.capture a = (s.start t).setAll t a.values := by
  rw [capture, h]

end Scope

/-- The model of a field and its annotations. -/
def FieldModel.ofEvents (owner : String) (decl : FieldDecl) (annotations : List AnnotationEvent) :
    FieldModel :=
  ⟨owner, decl, .ofEvents annotations⟩

/-- Events that are taken one by one leave what they make of the state together. -/
theorem Latched.run_taken {σ ε : Type} {step : Latched σ → ε → Latched σ × Except BuildError Unit}
    {take : σ → ε → σ} {b : Latched σ} (hb : b.failure? = none) {events : List ε}
    (h : ∀ e ∈ events, ∀ state, step ⟨state, none⟩ e = (⟨take state e, none⟩, .ok ())) :
    (run step b events).1 = ⟨events.foldl take b.state, none⟩ := by
  obtain ⟨state, failure?⟩ := b
  cases hb
  induction events generalizing state with
  | nil => rfl
  | cons e events ih =>
    obtain ⟨he, hes⟩ := List.forall_mem_cons.1 h
    rw [run, he]
    exact ih hes _

/-- An annotation that names a type is taken by a field. -/
theorem FieldBuilder.capture_of_type {a : AnnotationEvent} {t : String}
    (ht : annotationType a.descriptor = .ok t) (m : FieldModel) :
    capture ⟨m, none⟩ a = (⟨{ m with annotations := m.annotations.capture a }, none⟩, .ok ()) := by
  rw [capture, annotate, Latched.deliver_ok rfl (by rw [Scope.annotate, ht]; rfl),
    Scope.capture_of_type ht]
  rfl

/-- Annotations that name types are all taken by a field. -/
theorem FieldBuilder.run_capture (f : FieldBuilder) (hf : f.failure? = none)
    {annotations : List AnnotationEvent} (ha : ∀ a ∈ annotations, a.refusal? = none) :
    (Latched.run capture f annotations).1 =
      ⟨{ f.state with annotations := annotations.foldl Scope.capture f.state.annotations },
        none⟩ := by
  have htake : ∀ a ∈ annotations, ∀ m : FieldModel, capture ⟨m, none⟩ a =
      (⟨{ m with annotations := m.annotations.capture a }, none⟩, .ok ()) := by
    intro a hmem m
    rcases annotationType_eq a with ⟨t, ht, -⟩ | ⟨error, -, hr⟩
    · exact capture_of_type ht m
    · cases (ha a hmem).symm.trans hr
  have hfold : annotations.foldl
      (fun (m : FieldModel) a => { m with annotations := m.annotations.capture a }) f.state =
        { f.state with annotations := annotations.foldl Scope.capture f.state.annotations } :=
    List.foldl_hom (fun scope => { f.state with annotations := scope }) fun _ _ => rfl
  rw [Latched.run_taken hf htake, hfold]

namespace MethodModel

/-- Takes an annotation of the method, or of one of its parameters. -/
def captureAt (m : MethodModel) (x : MethodTarget × AnnotationEvent) : MethodModel :=
  m.onScope (·.capture x.2) x.1

/-- The model of a method and its annotations. -/
def ofEvents (owner : String) (decl : MethodDecl)
    (annotations : List (MethodTarget × AnnotationEvent)) : MethodModel :=
  annotations.foldl captureAt ⟨owner, decl, .empty, []⟩

theorem onScope_scope (m : MethodModel) (g : Scope → Scope) (target : MethodTarget) :
    m.onScope (fun _ => g (m.scope target)) target = m.onScope g target := by
  cases target <;> rfl

theorem scope_onScope (m : MethodModel) (g : Scope → Scope) (target target' : MethodTarget) :
    (m.onScope g target).scope target' =
      if target = target' then g (m.scope target') else m.scope target' := by
  cases target with
  | method => cases target' <;> rfl
  | parameter i =>
    cases target' with
    | method => rfl
    | parameter j =>
      rw [onScope, scope, annotationsOfParameter]
      by_cases h : i = j
      · subst h
        rw [Table.get?_put_self, if_pos rfl]
        rfl
      · rw [Table.get?_put_ne _ _ (Ne.symm h), if_neg fun heq => h (MethodTarget.parameter.inj heq)]
        rfl

theorem foldl_captureAt (annotations : List (MethodTarget × AnnotationEvent)) (m : MethodModel) :
    (annotations.foldl captureAt m).owner = m.owner ∧
      (annotations.foldl captureAt m).decl = m.decl ∧
      ∀ target, (annotations.foldl captureAt m).scope target =
        (deliveredTo target annotations).foldl Scope.capture (m.scope target) := by
  induction annotations generalizing m with
  | nil => exact ⟨rfl, rfl, fun _ => rfl⟩
  | cons x annotations ih =>
    obtain ⟨ho, hd, hs⟩ := ih (m.captureAt x)
    obtain ⟨ho', hd'⟩ := m.onScope_kept (·.capture x.2) x.1
    refine ⟨ho.trans ho', hd.trans hd', fun target => (hs target).trans ?_⟩
    rw [captureAt, scope_onScope, deliveredTo_cons]
    split_ifs <;> rfl

/-- **Targets.**  A method keeps its declaration, and it and each of its parameters have
    the annotations that were delivered to them. -/
theorem scope_ofEvents (owner : String) (decl : MethodDecl)
    (annotations : List (MethodTarget × AnnotationEvent)) :
    (ofEvents owner decl annotations).owner = owner ∧
      (ofEvents owner decl annotations).decl = decl ∧
      ∀ target, (ofEvents owner decl annotations).scope target =
        .ofEvents (deliveredTo target annotations) := by
  obtain ⟨ho, hd, hs⟩ := foldl_captureAt annotations ⟨owner, decl, .empty, []⟩
  refine ⟨ho, hd, fun target => (hs target).trans ?_⟩
  cases target <;> rfl

end MethodModel

/-- An annotation that names a type is taken by a method, or by its parameter. -/
theorem MethodBuilder.captureAt_of_type {x : MethodTarget × AnnotationEvent} {t : String}
    (ht : annotationType x.2.descriptor = .ok t) (m : MethodModel) :
    captureAt ⟨m, none⟩ x = (⟨m.captureAt x, none⟩, .ok ()) := by
  have hs : m.captureAt x =
      (m.onScope (fun _ => (m.scope x.1).start t) x.1).onScope (·.setAll t x.2.values) x.1 := by
    rw [MethodModel.captureAt, MethodModel.onScope_onScope, ← MethodModel.onScope_scope,
      Scope.capture_of_type ht]
  rw [captureAt, capture, annotate, Latched.deliver_ok rfl (by rw [Scope.annotate, ht]; rfl), hs]
  rfl

/-- Annotations that name types are all taken by a method. -/
theorem MethodBuilder.run_captureAt (m : MethodBuilder) (hf : m.failure? = none)
    {annotations : List (MethodTarget × AnnotationEvent)}
    (ha : ∀ x ∈ annotations, x.2.refusal? = none) :
    (Latched.run captureAt m annotations).1 =
      ⟨annotations.foldl MethodModel.captureAt m.state, none⟩ := by
  refine Latched.run_taken hf fun x hmem m => ?_
  rcases annotationType_eq x.2 with ⟨t, ht, -⟩ | ⟨error, -, hr⟩
  · exact captureAt_of_type ht m
  · cases (ha x hmem).symm.trans hr

/-! ## Classes -/

/-- The names that a header gives to its class. -/
def Identity.ofHeader (h : ClassHeader) : Identity :=
  match Name.split (Name.qualified h.name) with
  | some (package, nested) => ⟨h, Name.qualified h.name, package, nested, rfl⟩
  | none => ⟨h, Name.qualified h.name, "", Name.qualified h.name, rfl⟩

theorem Identity.header_ofHeader (h : ClassHeader) : (ofHeader h).header = h := by
  unfold ofHeader
  split <;> rfl

theorem ClassDraft.eq_ofHeader {d : ClassDraft} {h : ClassHeader} {i : Identity}
    (hi : d.identify h = .ok i) : i = .ofHeader h := by
  unfold identify at hi
  split at hi
  · cases hi
  · dsimp only at hi
    cases hs : Name.split (Name.qualified h.name) with
    | some parts =>
      rw [hs] at hi
      cases hi
      rw [Identity.ofHeader, hs]
    | none =>
      rw [hs] at hi
      dsimp only at hi
      split_ifs at hi
      cases hi
      rw [Identity.ofHeader, hs]

/-- The class of a header, of annotations, of fields and of methods. -/
def ClassModel.ofKinds (h : ClassHeader) (annotations : List AnnotationEvent)
    (fields : List (FieldDecl × List AnnotationEvent))
    (methods : List (MethodDecl × List (MethodTarget × AnnotationEvent))) : ClassModel where
  header := h
  qualifiedName := (Identity.ofHeader h).qualifiedName
  packageName := (Identity.ofHeader h).packageName
  nestedName := (Identity.ofHeader h).nestedName
  fields := fields.map fun f => .ofEvents h.name f.1 f.2
  methods := methods.map fun m => .ofEvents h.name m.1 m.2
  constructorPositions := constructorsAt (methods.map (·.1))
  annotations := .ofEvents annotations

/-- A class of which the positions are those of its constructors has the constructors
    among its methods. -/
theorem ClassModel.Coherent.constructors {c : ClassModel} (h : c.Coherent) :
    c.constructors = c.methods.filter (·.isConstructor) := by
  have key : ∀ methods : List MethodModel,
      (constructorsAt (methods.map (·.decl))).filterMap (methods[·]?) =
        methods.filter (·.isConstructor) := by
    intro methods
    induction methods using List.reverseRecOn with
    | nil => rfl
    | append_singleton methods m ih =>
      -- the positions noted before are below the length of the list
      have hbelow : ∀ i ∈ constructorsAt (methods.map (·.decl)),
          (methods ++ [m])[i]? = methods[i]? := by
        intro i hi
        obtain ⟨d, hd, -⟩ := mem_constructorsAt.1 hi
        have hlt := (List.getElem?_eq_some_iff.1 hd).1
        rw [List.length_map] at hlt
        exact List.getElem?_append_left hlt
      rw [List.map_append, List.map_singleton, constructorsAt_concat, List.filterMap_append,
        List.filterMap_congr hbelow, ih, List.filter_append, List.length_map,
        List.filter_singleton, MethodModel.isConstructor]
      cases m.decl.isConstructor
      · rfl
      · simp
  rw [ClassModel.constructors, h.positions, key]

namespace ClassBuilder

variable {b : ClassBuilder} {h : ClassHeader} {annotations : List AnnotationEvent}
  {fields : List (FieldDecl × List AnnotationEvent)}
  {methods : List (MethodDecl × List (MethodTarget × AnnotationEvent))}

theorem recordAll_class (t : String) (values : List (String × ElementValue)) :
    ∀ b : ClassBuilder, b.recordAll (.onClass t) values =
      { b with state := { b.state with annotations := b.state.annotations.setAll t values } } := by
  induction values with
  | nil => exact fun _ => rfl
  | cons v values ih => exact fun b => ih _

/-- An annotation that names a type is taken by a class that has its header. -/
theorem visitWith_annotated_of_type {owner t : String} {a : AnnotationEvent}
    (hf : b.failure? = none) (hn : b.name? = some owner)
    (ht : annotationType a.descriptor = .ok t) :
    b.visitWith (.classAnnotated a.descriptor a.visible) a.values =
      ({ b with state := { b.state with annotations := b.state.annotations.capture a } },
        .ok ()) := by
  have hok : b.state.annotate a.descriptor a.visible =
      .ok ({ b.state with annotations := b.state.annotations.start t }, .onClass t) := by
    rw [ClassDraft.annotate, owner_of_name? hn, Scope.annotate, ht]
    rfl
  rw [visitWith_of_accepted (·.annotate a.descriptor a.visible) rfl hf hok, recordAll_class,
    Scope.capture_of_type ht]

/-- What a header, annotations, fields and methods have made of a builder. -/
structure Assembles (b : ClassBuilder) (h : ClassHeader) (annotations : List AnnotationEvent)
    (fields : List (FieldDecl × List AnnotationEvent))
    (methods : List (MethodDecl × List (MethodTarget × AnnotationEvent))) : Prop where
  unfailed : b.failure? = none
  identity : b.state.identity? = some (.ofHeader h)
  annotations : b.state.annotations = .ofEvents annotations
  fields : b.state.fields.reverse.map (·.state) = fields.map fun f => .ofEvents h.name f.1 f.2
  methods : b.state.methods.reverse.map (·.state) = methods.map fun m => .ofEvents h.name m.1 m.2

theorem Assembles.name? (hb : b.Assembles h annotations fields methods) :
    b.name? = some h.name := by
  rw [ClassBuilder.name?, hb.identity, Option.map_some, Identity.header_ofHeader]

/-- The header comes first. -/
theorem assembles_header {settings : Settings}
    (he : (ClassEvent.header h).refusal? settings none = none) :
    ((ofSettings settings).feed (.header h)).1.Assembles h [] [] [] := by
  rcases (ofSettings settings).state.header_cases h with ⟨error, hr, -⟩ | ⟨i, -, -, -, hd⟩
  · cases he.symm.trans hr
  · have hi : i = .ofHeader h := by
      obtain ⟨j, hj, heq⟩ := exists_of_map_eq_ok hd
      have hji : i = j := (Option.some.inj (congrArg (·.1.identity?) heq)).symm
      exact hji.trans (ClassDraft.eq_ofHeader hj)
    rw [feed, visitWith_of_accepted (·.header h) rfl rfl hd, recordAll_nowhere, hi]
    exact ⟨rfl, rfl, rfl, rfl, rfl⟩

/-! ### Each event adds to its own kind, and leaves the others -/

theorem Assembles.annotated (hb : b.Assembles h annotations fields methods) {a : AnnotationEvent}
    (ha : a.refusal? = none) :
    (b.feed (.annotated a)).1.Assembles h (annotations ++ [a]) fields methods := by
  rcases annotationType_eq a with ⟨t, ht, -⟩ | ⟨error, -, hr⟩
  · rw [feed, visitWith_annotated_of_type hb.unfailed hb.name? ht]
    refine ⟨hb.unfailed, hb.identity, ?_, hb.fields, hb.methods⟩
    dsimp only
    rw [Scope.ofEvents, List.foldl_append, hb.annotations]
    rfl
  · cases ha.symm.trans hr

theorem Assembles.field (hb : b.Assembles h annotations fields methods) (decl : FieldDecl)
    {own : List AnnotationEvent} (ho : ∀ a ∈ own, a.refusal? = none) :
    (b.feed (.field decl own)).1.Assembles h annotations (fields ++ [(decl, own)]) methods := by
  have hok : b.state.field decl =
      .ok ({ b.state with fields := .ofDecl h.name decl :: b.state.fields }, .nowhere) := by
    rw [ClassDraft.field, owner_of_name? hb.name?]
    rfl
  rw [feed, visitMember_of_accepted (visitWith_of_accepted (·.field decl) rfl hb.unfailed hok []),
    recordAll_nowhere, visitAll_field, FieldBuilder.run_capture _ rfl ho]
  refine ⟨hb.unfailed, hb.identity, hb.annotations, ?_, hb.methods⟩
  rw [List.reverse_cons, List.map_append, List.map_append, ← hb.fields]
  rfl

theorem Assembles.method (hb : b.Assembles h annotations fields methods) (decl : MethodDecl)
    {own : List (MethodTarget × AnnotationEvent)} (ho : ∀ x ∈ own, x.2.refusal? = none) :
    (b.feed (.method decl own)).1.Assembles h annotations fields (methods ++ [(decl, own)]) := by
  obtain ⟨positions, hok⟩ : ∃ positions, b.state.method decl = .ok ({ b.state with
      methods := .ofDecl h.name decl :: b.state.methods
      constructorPositions := positions }, .nowhere) := by
    rw [ClassDraft.method, owner_of_name? hb.name?]
    exact ⟨_, rfl⟩
  rw [feed, visitMember_of_accepted (visitWith_of_accepted (·.method decl) rfl hb.unfailed hok []),
    recordAll_nowhere,
    visitAll_method { b.state with constructorPositions := positions } b.failure?,
    MethodBuilder.run_captureAt _ rfl ho]
  refine ⟨hb.unfailed, hb.identity, hb.annotations, hb.fields, ?_⟩
  rw [List.reverse_cons, List.map_append, List.map_append, ← hb.methods]
  rfl

/-- **Kinds.**  A run of events adds to each kind the events of that kind, in order. -/
theorem Assembles.foldl (hb : b.Assembles h annotations fields methods) {rest : List ClassEvent}
    (hn : ∀ e ∈ rest, e.name? = none)
    (hd : ∀ e ∈ rest, ∀ d ∈ e.descriptors, ∃ t, FieldType.fieldTypeName d = .ok t) :
    Assembles (rest.foldl (fun b e => (b.feed e).1) b) h
      (annotations ++ rest.filterMap (·.annotation?)) (fields ++ rest.filterMap (·.field?))
      (methods ++ rest.filterMap (·.method?)) := by
  induction rest generalizing b annotations fields methods with
  | nil => simpa using hb
  | cons e rest ih =>
    obtain ⟨hne, hns⟩ := List.forall_mem_cons.1 hn
    obtain ⟨hde, hds⟩ := List.forall_mem_cons.1 hd
    rw [List.foldl_cons]
    cases e with
    | header h' => cases hne
    | annotated a =>
      have ha := a.refusal?_eq_none.2 (hde _ (List.mem_singleton_self _))
      have hrest := ih (hb.annotated ha) hns hds
      rwa [List.append_assoc] at hrest
    | field decl own =>
      have ho : ∀ a ∈ own, a.refusal? = none := fun a ha =>
        a.refusal?_eq_none.2 (hde _ (List.mem_map_of_mem ha))
      have hrest := ih (hb.field decl ho) hns hds
      rwa [List.append_assoc fields] at hrest
    | method decl own =>
      have ho : ∀ x ∈ own, x.2.refusal? = none := fun x hx =>
        x.2.refusal?_eq_none.2 (hde _ (List.mem_map_of_mem (f := (·.2.descriptor)) hx))
      have hrest := ih (hb.method decl ho) hns hds
      rwa [List.append_assoc methods] at hrest

variable {events : List ClassEvent}

theorem Coherent.foldl (hb : b.Coherent) (events : List ClassEvent) :
    Coherent (events.foldl (fun b e => (b.feed e).1) b) := by
  induction events generalizing b with
  | nil => exact hb
  | cons e events ih => exact ih (hb.feed e)

/-- Nothing is wrong with a stream of events that a class can be built from. -/
theorem verdict?_of_build {settings : Settings} {model : ClassModel}
    (hbuild : (events.foldl (fun b e => (b.feed e).1) (ofSettings settings)).build = .ok model) :
    verdict? settings events = none := by
  have hverdict := build_of_verdict (events.foldl (fun b e => (b.feed e).1) (ofSettings settings))
  rw [standing_foldl, show (ofSettings settings).standing = { settings } from rfl,
    Standing.verdict_foldl] at hverdict
  cases hv : verdict? settings events with
  | none => rfl
  | some error =>
    rw [hv] at hverdict
    cases hbuild.symm.trans hverdict

/-- **Assembly.**  A stream of events that a class can be built from starts with the
    header, and the class is what the events of each kind make. -/
theorem build_foldl {settings : Settings} {model : ClassModel}
    (hbuild : (events.foldl (fun b e => (b.feed e).1) (ofSettings settings)).build = .ok model) :
    model.Coherent ∧ ∃ h, events.head? = some (.header h) ∧
      model = .ofKinds h (events.filterMap (·.annotation?)) (events.filterMap (·.field?))
        (events.filterMap (·.method?)) := by
  have hc := ((coherent_ofSettings settings).foldl events).build hbuild
  refine ⟨hc, ?_⟩
  obtain ⟨h, rest, rfl, hn, hp, hd⟩ :=
    (verdict?_eq_none settings events).1 (verdict?_of_build hbuild)
  have ha := (assembles_header ((ClassEvent.refusal?_header settings h).2 hp)).foldl hn hd
  rw [List.foldl_cons] at hbuild
  unfold build Latched.complete at hbuild
  rw [ha.unfailed] at hbuild
  obtain ⟨i, hi, rfl⟩ := ClassDraft.build_members hbuild
  cases hi.symm.trans ha.identity
  refine ⟨h, rfl, ?_⟩
  rw [ClassModel.ofKinds, ClassModel.mk.injEq]
  have hpositions := hc.positions
  dsimp only at hpositions
  rw [ha.methods, List.map_map] at hpositions
  refine ⟨Identity.header_ofHeader h, rfl, rfl, rfl, ha.fields, ha.methods, ?_, ha.annotations⟩
  rw [hpositions]
  refine congrArg constructorsAt (List.map_congr_left fun m _ => ?_)
  exact (MethodModel.scope_ofEvents h.name m.1 m.2).2.1

end ClassBuilder

/-! ## Classes in a session -/

namespace Session

variable {id catalog : String} {settings : Settings} {before middle : List Request} {e : Entry}

/-- A class that the end of a build hands out is built from the events of its builder. -/
theorem build_of_finished (hl : Leaves id middle) {opened : String}
    (he : ((after (before ++ ⟨catalog, .newBuilder id settings⟩ :: middle)).step
      ⟨opened, .finish id⟩).2 = .finished (.ok e)) :
    ((eventsOf id middle).foldl (fun b e => (b.feed e).1)
      (ClassBuilder.ofSettings settings)).build = .ok e.model := by
  obtain ⟨b, hb, -, hbuilder⟩ := builder_after before catalog settings hl
  rw [finish_after hb, Reply.finished.injEq] at he
  rw [← hbuilder]
  cases hbuild : b.builder.build with
  | error error =>
    rw [hbuild] at he
    cases he
  | ok model =>
    rw [hbuild] at he
    dsimp only at he
    split_ifs at he
    cases he
    rfl

/-- **Classes by kind.**  A class that is handed out at the end of a build has the header
    that came first; one field for each field event and one method for each method event,
    in order, each with its declaration and the annotations that were delivered to it; and
    the annotations of the annotation events of the class.  Its constructors are those of
    its methods that are named so, and their positions increase.  Another class whose
    events agree kind by kind is the same, however the kinds are interleaved.  Whatever a
    builder is told, the positions that it has noted increase, and are those of methods
    that it has. -/
theorem class_by_kind (hl : Leaves id middle) {opened : String}
    (he : ((after (before ++ ⟨catalog, .newBuilder id settings⟩ :: middle)).step
      ⟨opened, .finish id⟩).2 = .finished (.ok e)) :
    let events := eventsOf id middle
    (events.head? = some (.header e.model.header) ∧
      e.model.annotations = .ofEvents (events.filterMap (·.annotation?)) ∧
      List.Forall₂ (fun f x => f.owner = e.model.name ∧ f.decl = x.1 ∧
        f.annotations = .ofEvents x.2) e.model.fields (events.filterMap (·.field?)) ∧
      List.Forall₂ (fun m x => m.owner = e.model.name ∧ m.decl = x.1 ∧
        ∀ target, m.scope target = .ofEvents (deliveredTo target x.2))
        e.model.methods (events.filterMap (·.method?)) ∧
      e.model.constructors = e.model.methods.filter (·.decl.name == "<init>") ∧
      e.model.constructorPositions.Pairwise (· < ·) ∧
      ∀ i, i ∈ e.model.constructorPositions ↔
        ∃ m, e.model.methods[i]? = some m ∧ m.decl.name = "<init>") ∧
    (∀ before' catalog' id' settings' middle' opened' e', Leaves id' middle' →
      ((after (before' ++ ⟨catalog', .newBuilder id' settings'⟩ :: middle')).step
        ⟨opened', .finish id'⟩).2 = .finished (.ok e') →
      let events' := eventsOf id' middle'
      events'.head? = events.head? →
      events'.filterMap (·.annotation?) = events.filterMap (·.annotation?) →
      events'.filterMap (·.field?) = events.filterMap (·.field?) →
      events'.filterMap (·.method?) = events.filterMap (·.method?) → e'.model = e.model) ∧
    ∀ settings' stream, let d := (ClassBuilder.visitAll (.ofSettings settings') stream).1.state
      d.constructorPositions.Pairwise (· < ·) ∧
      ∀ i ∈ d.constructorPositions,
        ∃ m, d.methods.reverse[i]? = some m ∧ m.state.decl.name = "<init>" := by
  intro events
  obtain ⟨hc, h, hh, hm⟩ := ClassBuilder.build_foldl (build_of_finished hl he)
  refine ⟨?_, ?_, fun settings' stream => ?_⟩
  · refine ⟨?_, ?_, ?_, ?_, hc.constructors, ?_, fun i => ?_⟩
    · rw [hm]
      exact hh
    · rw [hm]
      rfl
    · rw [hm]
      exact List.forall₂_map_left_iff.2 (List.forall₂_same.2 fun f _ => ⟨rfl, rfl, rfl⟩)
    · rw [hm]
      exact List.forall₂_map_left_iff.2
        (List.forall₂_same.2 fun m _ => MethodModel.scope_ofEvents h.name m.1 m.2)
    · rw [hc.positions]
      exact constructorsAt_increasing _
    · rw [hc.positions, mem_constructorsAt]
      simp [List.getElem?_map, MethodDecl.isConstructor, constructorName]
  · intro before' catalog' id' settings' middle' opened' e' hl' he' events' hhead ha hf hms
    obtain ⟨-, h', hh', hm'⟩ := ClassBuilder.build_foldl (build_of_finished hl' he')
    cases hh.symm.trans (hhead.symm.trans hh')
    rw [hm, hm']
    exact congr (congr (congrArg (ClassModel.ofKinds h) ha) hf) hms
  · have hd := (ClassBuilder.coherent_ofSettings settings').visitAll stream
    dsimp only
    rw [hd.positions]
    refine ⟨constructorsAt_increasing _, fun i hi => ?_⟩
    obtain ⟨d, hd, hctor⟩ := mem_constructorsAt.1 hi
    rw [ClassDraft.methodDecls, List.getElem?_map] at hd
    obtain ⟨m, hm, rfl⟩ := Option.map_eq_some_iff.1 hd
    exact ⟨m, hm, eq_of_beq hctor⟩

/-- A constructor between a field and an annotation of the class, and the same events
    the other way round: the classes are one. -/
theorem class_by_kind_reordered :
    let new : Request := ⟨"c", .newBuilder "x" {}⟩
    let header : Request := ⟨"c", .header "x" ⟨⟨0⟩, "a/B", none, none, []⟩⟩
    let field : Request := ⟨"c", .field "x" ⟨⟨0⟩, "f", "I", none, none⟩ [⟨"La/A;", true, []⟩]⟩
    let method : Request :=
      ⟨"c", .method "x" ⟨⟨0⟩, "<init>", "(I)V", none, []⟩ [(.parameter 0, ⟨"La/A;", true, []⟩)]⟩
    let annotated : Request := ⟨"c", .annotate "x" ⟨"La/A;", true, [("value", .int 1)]⟩⟩
    let result (middle : List Request) :=
      ((after ([] ++ new :: middle)).step ⟨"c", .finish "x"⟩).2
    ∃ e e', result [header, field, method, annotated] = .finished (.ok e) ∧
      result [header, annotated, method, field] = .finished (.ok e') ∧
      e'.model = e.model ∧ e.model.constructorPositions = [0] ∧
      e.model.annotations = ⟨[("a.A", [("value", .int 1)])]⟩ := by
  intro new header field method annotated result
  have hl (middle : List Request) (hm : ∀ q ∈ middle, q ∈ [header, field, method, annotated]) :
      Leaves "x" middle := by
    intro q hq
    have hq := hm q hq
    simp only [List.mem_cons, List.not_mem_nil, or_false] at hq
    rcases hq with rfl | rfl | rfl | rfl <;> exact ⟨nofun, nofun, nofun⟩
  have hl₁ := hl [header, field, method, annotated] fun _ hq => hq
  have hl₂ := hl [header, annotated, method, field] (by simp)
  obtain ⟨e, he⟩ : ∃ e, result [header, field, method, annotated] = .finished (.ok e) := ⟨_, rfl⟩
  obtain ⟨e', he'⟩ : ∃ e', result [header, annotated, method, field] = .finished (.ok e') :=
    ⟨_, rfl⟩
  obtain ⟨⟨-, ha, -⟩, hsame, -⟩ := class_by_kind hl₁ he
  refine ⟨e, e', he, he', hsame _ _ _ _ _ _ _ hl₂ he' rfl rfl rfl rfl, ?_, ha⟩
  cases he
  rfl

end Session

end ClassCatalog
