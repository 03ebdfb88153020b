/-
  What is captured of the annotations of one element.

  Of several annotations of one type the last is kept, in the place of the first; of
  several values of one element of it the last is kept, in the place of the first.

  * `Scope.ofEvents_eq`: the annotations that were delivered to a scope are put into its
    table one after the other;
  * `Scope.KeepsLast`: what can then be asked of the scope, in terms of the annotations
    that were delivered (`keepsLast_ofEvents`);
  * `Latched.Checks.complete_run_eq_ok_iff`: when a run of events is completed, and with
    what; `FieldBuilder.build_run_eq_ok_iff` and `MethodBuilder.build_run_eq_ok_iff` say
    so of members and their annotations;
  * `last_instance_captured`: so it is with a class, with fields and methods, and with
    parameters, and it makes no difference which annotations are visible.
-/
import ClassCatalog.Proofs.Assembly
import ClassCatalog.Proofs.Table

namespace ClassCatalog

/-! ## Types of annotations -/

namespace AnnotationEvent

/-- The type that the descriptor names. -/
def type? (a : AnnotationEvent) : Option String := (FieldType.fieldTypeName a.descriptor).toOption

/-- The annotation is the last one of the type. -/
def IsLast (events : List AnnotationEvent) (t : String) (a : AnnotationEvent) : Prop :=
  ∃ before after, events = before ++ a :: after ∧ a.type? = some t ∧ ∀ b ∈ after, b.type? ≠ some t

/-- The annotation without the mark that it is visible. -/
def hidden (a : AnnotationEvent) : AnnotationEvent := { a with visible := false }

/-- What the annotation is captured as. -/
def captured? (a : AnnotationEvent) : Option (String × Attributes) :=
  a.type?.map (·, Table.ofPuts a.values)

theorem captured?_eq_some_iff {a : AnnotationEvent} {t : String} {as : Attributes} :
    a.captured? = some (t, as) ↔ a.type? = some t ∧ Table.ofPuts a.values = as := by
  rw [captured?, Option.map_eq_some_iff]
  simp

theorem type?_eq_some_iff {a : AnnotationEvent} {t : String} :
    a.type? = some t ↔ annotationType a.descriptor = .ok t := by
  rw [type?, annotationType]
  cases FieldType.fieldTypeName a.descriptor <;> simp [Except.mapError, Except.toOption]

theorem exists_type? {a : AnnotationEvent} (h : a.refusal? = none) : ∃ t, a.type? = some t := by
  obtain ⟨t, ht⟩ := a.refusal?_eq_none.1 h
  exact ⟨t, by rw [type?, ht]; rfl⟩

end AnnotationEvent

/-! ## Scopes -/

namespace Scope

theorem setAll_put (captures : Table String Attributes) (t : String)
    (values : List (String × ElementValue)) (as : Attributes) :
    Scope.setAll ⟨captures.put t as⟩ t values =
      ⟨captures.put t (values.foldl (fun as e => Table.put as e.1 e.2) as)⟩ := by
  induction values generalizing as with
  | nil => rfl
  | cons v values ih =>
    have hset : Scope.set ⟨captures.put t as⟩ t v.1 v.2 =
        ⟨captures.put t (Table.put as v.1 v.2)⟩ := by
      simp only [Scope.set, Table.modify, Table.get?_put_self, Table.put_put]
    rw [Scope.setAll, List.foldl_cons, hset]
    exact ih _

/-- An accepted annotation takes its place with just the elements that were set on it. -/
theorem capture_eq_put {a : AnnotationEvent} {t : String}
    (h : annotationType a.descriptor = .ok t) (s : Scope) :
    s.capture a = ⟨s.captures.put t (Table.ofPuts a.values)⟩ := by
  rw [Scope.capture_of_type h]
  exact Scope.setAll_put s.captures t a.values []

theorem ofEvents_concat (events : List AnnotationEvent) (a : AnnotationEvent) :
    ofEvents (events ++ [a]) = (ofEvents events).capture a := by
  rw [ofEvents, List.foldl_append]
  rfl

/-- The annotations of a scope are put into its table one after the other. -/
theorem ofEvents_eq (events : List AnnotationEvent) :
    ofEvents events = ⟨Table.ofPuts (events.filterMap (·.captured?))⟩ := by
  induction events using List.reverseRecOn with
  | nil => rfl
  | append_singleton events a ih =>
    rw [ofEvents_concat, ih, List.filterMap_append]
    cases ht : annotationType a.descriptor with
    | error error =>
      have hnone : a.captured? = none := by
        rw [AnnotationEvent.captured?, Option.map_eq_none_iff, Option.eq_none_iff_forall_ne_some]
        intro t h
        cases ht.symm.trans (AnnotationEvent.type?_eq_some_iff.1 h)
      rw [capture, ht, List.filterMap_cons_none hnone, List.filterMap_nil, List.append_nil]
    | ok t =>
      have hsome : a.captured? = some (t, Table.ofPuts a.values) :=
        AnnotationEvent.captured?_eq_some_iff.2 ⟨AnnotationEvent.type?_eq_some_iff.2 ht, rfl⟩
      rw [capture_eq_put ht, List.filterMap_cons_some hsome, List.filterMap_nil,
        Table.ofPuts_concat]

/-- What can be asked of a scope to which annotations were delivered. -/
structure KeepsLast (s : Scope) (events : List AnnotationEvent) : Prop where
  /-- All annotations count, for all of them name a type. -/
  typed : ∀ a ∈ events, ∃ t, a.type? = some t
  /-- Types stand in the order in which they came first, each once. -/
  names : s.names = (events.filterMap (·.type?)).eraseDups
  has_iff : ∀ t, s.has t ↔ ∃ a ∈ events, a.type? = some t
  /-- An annotation is the last one of its type, and nothing is left of others.  Its
      elements stand in the order in which they were set first, with the values that were
      set last. -/
  handle : ∀ t h, s.handle? t = some h → h.typeName = t ∧
    ∃ a, AnnotationEvent.IsLast events t a ∧
      h.attributes.keys = (a.values.map (·.1)).eraseDups ∧
      ∀ name, h.attributes.get? name = a.values.reverse.lookup name
  view : ∀ schema, (s.view? schema).isSome = s.has schema.typeName ∧
    ∀ h, s.handle? schema.typeName = some h → s.view? schema = some ⟨schema, h.attributes⟩

variable {events : List AnnotationEvent}

/-- What is found under a type is what the last annotation of the type was captured as. -/
theorem get?_captures_ofEvents {t : String} {as : Attributes}
    (h : (ofEvents events).captures.get? t = some as) :
    ∃ a, AnnotationEvent.IsLast events t a ∧ as = Table.ofPuts a.values := by
  rw [ofEvents_eq] at h
  obtain ⟨before, after, hentries, hafter⟩ := Table.get?_ofPuts_eq_some_iff.1 h
  obtain ⟨before', rest, rfl, -, hrest⟩ := List.filterMap_eq_append_iff.1 hentries
  obtain ⟨skipped, a, after', rfl, hskipped, ha, rfl⟩ := List.filterMap_eq_cons_iff.1 hrest
  obtain ⟨ht, rfl⟩ := AnnotationEvent.captured?_eq_some_iff.1 ha
  refine ⟨a, ⟨before' ++ skipped, after', by simp, ht, fun b hb hbt => hafter ?_⟩, rfl⟩
  have hcaptured : b.captured? = some (t, Table.ofPuts b.values) :=
    AnnotationEvent.captured?_eq_some_iff.2 ⟨hbt, rfl⟩
  exact List.mem_map_of_mem (f := Prod.fst) (List.mem_filterMap.2 ⟨b, hb, hcaptured⟩)

theorem names_ofEvents (events : List AnnotationEvent) :
    (ofEvents events).names = (events.filterMap (·.type?)).eraseDups := by
  have htypes : (events.filterMap (·.captured?)).map (·.1) = events.filterMap (·.type?) := by
    rw [List.map_filterMap]
    refine List.filterMap_congr fun a _ => ?_
    rw [AnnotationEvent.captured?, Option.map_map]
    exact Option.map_id'
  rw [ofEvents_eq, names]
  exact (Table.keys_ofPuts _).trans (congrArg _ htypes)

theorem keepsLast_ofEvents (h : ∀ a ∈ events, a.refusal? = none) :
    (ofEvents events).KeepsLast events where
  typed a ha := AnnotationEvent.exists_type? (h a ha)
  names := names_ofEvents events
  has_iff t := by
    rw [has, handle?, Option.isSome_map, Table.isSome_get?_iff]
    exact (congrArg (t ∈ ·) (names_ofEvents events)).to_iff.trans (by simp)
  handle t handle hh := by
    obtain ⟨as, has, rfl⟩ := Option.map_eq_some_iff.1 hh
    obtain ⟨a, ha, rfl⟩ := get?_captures_ofEvents has
    exact ⟨rfl, a, ha, Table.keys_ofPuts a.values, fun name => Table.get?_ofPuts a.values name⟩
  view schema := by
    refine ⟨?_, fun handle hh => ?_⟩
    · rw [view?, has, Option.isSome_map]
    · rw [view?, hh]
      rfl

end Scope

/-! ## Members -/

namespace Latched

variable {σ ε : Type} {step : Latched σ → ε → Latched σ × Except BuildError Unit}
  {fault? : ε → Option BuildError} {b : Latched σ} {state : σ} {events : List ε}

theorem complete_ok_eq_ok_iff : b.complete .ok = .ok state ↔ b = ⟨state, none⟩ := by
  obtain ⟨state', failure?⟩ := b
  cases failure? <;> simp [complete]

/-- If nothing was refused, no event had a fault. -/
theorem Checks.fault?_of_unfailed (h : Checks step fault?) (hb : b.failure? = none)
    (hr : (run step b events).1.failure? = none) : ∀ e ∈ events, fault? e = none := by
  induction events generalizing b with
  | nil => exact nofun
  | cons e events ih =>
    have hrun : (run step b (e :: events)).1 = (run step (step b e).1 events).1 := rfl
    rw [hrun] at hr
    cases he : fault? e with
    | none => exact List.forall_mem_cons.2 ⟨he, ih (h.accepted hb he).1 hr⟩
    | some error =>
      -- a refusal is latched, so that it would be there at the end
      rw [h.refused hb he, h.run_of_failed rfl] at hr
      cases hr

/-- A run is completed iff no event has a fault, and with what such a run leaves. -/
theorem Checks.complete_run_eq_ok_iff {left : σ} (h : Checks step fault?) (hb : b.failure? = none)
    (hleft : (∀ e ∈ events, fault? e = none) → (run step b events).1 = ⟨left, none⟩) :
    (run step b events).1.complete .ok = .ok state ↔
      (∀ e ∈ events, fault? e = none) ∧ state = left := by
  rw [complete_ok_eq_ok_iff]
  constructor
  · intro hstate
    have hnone := h.fault?_of_unfailed hb (congrArg (·.failure?) hstate)
    rw [hleft hnone] at hstate
    exact ⟨hnone, (congrArg (·.state) hstate).symm⟩
  · rintro ⟨hnone, rfl⟩
    exact hleft hnone

end Latched

/-- A field is built from its annotations iff they all name types. -/
theorem FieldBuilder.build_run_eq_ok_iff {owner : String} {decl : FieldDecl}
    {events : List AnnotationEvent} {f : FieldModel} :
    build (Latched.run capture (ofDecl owner decl) events).1 = .ok f ↔
      (∀ a ∈ events, a.refusal? = none) ∧ f = .ofEvents owner decl events :=
  checks_capture.complete_run_eq_ok_iff rfl (run_capture _ rfl)

/-- A method is built from its annotations and those of its parameters iff they all name
    types. -/
theorem MethodBuilder.build_run_eq_ok_iff {owner : String} {decl : MethodDecl}
    {events : List (MethodTarget × AnnotationEvent)} {m : MethodModel} :
    build (Latched.run captureAt (ofDecl owner decl) events).1 = .ok m ↔
      (∀ x ∈ events, x.2.refusal? = none) ∧ m = .ofEvents owner decl events :=
  checks_captureAt.complete_run_eq_ok_iff rfl (run_captureAt _ rfl)

theorem refusal?_of_deliveredTo {events : List (MethodTarget × AnnotationEvent)}
    (h : ∀ x ∈ events, x.2.refusal? = none) (target : MethodTarget) :
    ∀ a ∈ deliveredTo target events, a.refusal? = none := by
  intro a ha
  obtain ⟨x, hx, rfl⟩ := List.mem_map.1 ha
  exact h x (List.mem_filter.1 hx).1

/-! ## Classes -/

/-- All annotations in a stream of events that a class can be built from name types. -/
theorem ClassBuilder.refusal?_of_build {settings : Settings} {events : List ClassEvent}
    {model : ClassModel}
    (hbuild : (events.foldl (fun b e => (b.feed e).1) (ofSettings settings)).build = .ok model) :
    (∀ a ∈ events.filterMap (·.annotation?), a.refusal? = none) ∧
      (∀ x ∈ events.filterMap (·.field?), ∀ a ∈ x.2, a.refusal? = none) ∧
      ∀ x ∈ events.filterMap (·.method?), ∀ y ∈ x.2, y.2.refusal? = none := by
  obtain ⟨h, rest, rfl, -, -, hd⟩ :=
    (verdict?_eq_none settings events).1 (verdict?_of_build hbuild)
  have htyped : ∀ e ∈ .header h :: rest, ∀ d ∈ e.descriptors,
      ∃ t, FieldType.fieldTypeName d = .ok t :=
    List.forall_mem_cons.2 ⟨nofun, hd⟩
  refine ⟨fun a ha => ?_, fun x hx a ha => ?_, fun x hx y hy => ?_⟩
  · obtain ⟨e, he, hea⟩ := List.mem_filterMap.1 ha
    cases e <;> cases hea
    exact a.refusal?_eq_none.2 (htyped _ he _ (List.mem_singleton_self _))
  · obtain ⟨e, he, hex⟩ := List.mem_filterMap.1 hx
    cases e <;> cases hex
    exact a.refusal?_eq_none.2 (htyped _ he _ (List.mem_map_of_mem ha))
  · obtain ⟨e, he, hex⟩ := List.mem_filterMap.1 hx
    cases e <;> cases hex
    exact y.2.refusal?_eq_none.2 (htyped _ he _ (List.mem_map_of_mem (f := (·.2.descriptor)) hy))

/-! ## Visibility -/

/-- The event without the marks that annotations are visible. -/
def ClassEvent.hidden : ClassEvent → ClassEvent
  | header h => header h
  | annotated a => annotated a.hidden
  | field decl annotations => field decl (annotations.map (·.hidden))
  | method decl annotations => method decl (annotations.map fun x => (x.1, x.2.hidden))

theorem Latched.run_map {σ ε : Type} {step : Latched σ → ε → Latched σ × Except BuildError Unit}
    {g : ε → ε} (h : ∀ b e, step b (g e) = step b e) (b : Latched σ) (events : List ε) :
    run step b (events.map g) = run step b events := by
  induction events generalizing b with
  | nil => rfl
  | cons e events ih =>
    rw [List.map_cons, run, run, h]
    dsimp only
    rw [ih]

namespace ClassBuilder

theorem visitAll_map_map {α : Type} {f : α → Event × List (String × ElementValue)} {g : α → α}
    (h : ∀ (b : ClassBuilder) x, b.visitWith (f (g x)).1 (f (g x)).2 = b.visitWith (f x).1 (f x).2)
    (xs : List α) :
    ∀ b : ClassBuilder, b.visitAll ((xs.map g).map f) = b.visitAll (xs.map f) := by
  induction xs with
  | nil => exact fun _ => rfl
  | cons x xs ih =>
    intro b
    rw [List.map_cons, List.map_cons, List.map_cons, visitAll, visitAll, h]
    dsimp only
    rw [ih]

theorem visitMember_congr {xs ys : List (Event × List (String × ElementValue))}
    (h : ∀ b : ClassBuilder, b.visitAll xs = b.visitAll ys) (b : ClassBuilder) (e : Event) :
    b.visitMember e xs = b.visitMember e ys := by
  unfold visitMember
  rcases b.visitWith e [] with ⟨b', error | u⟩
  · rfl
  · dsimp only
    rw [h]

/-- It makes no difference to a class which annotations are visible. -/
theorem feed_hidden (b : ClassBuilder) (e : ClassEvent) : b.feed e.hidden = b.feed e := by
  cases e with
  | header h => rfl
  | annotated a => rfl
  | field decl annotations =>
    have hall := visitAll_map_map (f := Session.fieldEvent) (g := (·.hidden))
      (fun _ _ => rfl) annotations
    rw [ClassEvent.hidden, feed, feed, visitMember_congr hall]
  | method decl annotations =>
    have hall := visitAll_map_map (f := Session.methodEvent) (g := fun x => (x.1, x.2.hidden))
      (fun b x => by rcases x with ⟨_ | _, _⟩ <;> rfl) annotations
    rw [ClassEvent.hidden, feed, feed, visitMember_congr hall]

end ClassBuilder

/-! ## Main statement -/

/-- **Captures.**  On a field, on a method or one of its parameters, and on a class, what
    was captured of the annotations that were accepted there is the last one of each type
    (`Scope.KeepsLast`).  It makes no difference which of them are visible. -/
theorem last_instance_captured :
    (∀ (owner : String) (decl : FieldDecl) (events : List AnnotationEvent),
      let q := Latched.run FieldBuilder.capture (FieldBuilder.ofDecl owner decl) events
      (∀ r ∈ q.2, r = .ok ()) →
      ∃ f, FieldBuilder.build q.1 = .ok f ∧ f.annotations.KeepsLast events) ∧
    (∀ (owner : String) (decl : MethodDecl) (events : List (MethodTarget × AnnotationEvent)),
      let q := Latched.run MethodBuilder.captureAt (MethodBuilder.ofDecl owner decl) events
      (∀ r ∈ q.2, r = .ok ()) →
      ∃ m, MethodBuilder.build q.1 = .ok m ∧
        ∀ target, (m.scope target).KeepsLast (deliveredTo target events)) ∧
    (∀ (settings : Settings) (events : List ClassEvent) (model : ClassModel),
      (events.foldl (fun b e => (b.feed e).1) (ClassBuilder.ofSettings settings)).build =
        .ok model →
      model.annotations.KeepsLast (events.filterMap (·.annotation?)) ∧
      List.Forall₂ (fun f x => f.annotations.KeepsLast x.2)
        model.fields (events.filterMap (·.field?)) ∧
      List.Forall₂ (fun m x => ∀ target, (m.scope target).KeepsLast (deliveredTo target x.2))
        model.methods (events.filterMap (·.method?))) ∧
    (∀ (b : FieldBuilder) events, Latched.run FieldBuilder.capture b (events.map (·.hidden)) =
      Latched.run FieldBuilder.capture b events) ∧
    (∀ (b : MethodBuilder) events,
      Latched.run MethodBuilder.captureAt b (events.map fun x => (x.1, x.2.hidden)) =
        Latched.run MethodBuilder.captureAt b events) ∧
    ∀ (b : ClassBuilder) e, b.feed e.hidden = b.feed e := by
  refine ⟨?_, ?_, fun settings events model hbuild => ?_, Latched.run_map fun _ _ => rfl,
    Latched.run_map fun _ _ => rfl, ClassBuilder.feed_hidden⟩
  · intro owner decl events q hq
    have hnone := FieldBuilder.checks_capture.fault?_of_unfailed rfl
      (FieldBuilder.checks_capture.run_of_ok rfl hq)
    exact ⟨_, FieldBuilder.build_run_eq_ok_iff.2 ⟨hnone, rfl⟩, Scope.keepsLast_ofEvents hnone⟩
  · intro owner decl events q hq
    have hnone := MethodBuilder.checks_captureAt.fault?_of_unfailed rfl
      (MethodBuilder.checks_captureAt.run_of_ok rfl hq)
    refine ⟨_, MethodBuilder.build_run_eq_ok_iff.2 ⟨hnone, rfl⟩, fun target => ?_⟩
    rw [(MethodModel.scope_ofEvents owner decl events).2.2 target]
    exact Scope.keepsLast_ofEvents (refusal?_of_deliveredTo hnone target)
  · obtain ⟨ha, hf, hm⟩ := ClassBuilder.refusal?_of_build hbuild
    obtain ⟨-, h, -, rfl⟩ := ClassBuilder.build_foldl hbuild
    refine ⟨Scope.keepsLast_ofEvents ha, ?_, ?_⟩
    · exact List.forall₂_map_left_iff.2
        (List.forall₂_same.2 fun x hx => Scope.keepsLast_ofEvents (hf x hx))
    · refine List.forall₂_map_left_iff.2 (List.forall₂_same.2 fun x hx target => ?_)
      rw [(MethodModel.scope_ofEvents h.name x.1 x.2).2.2 target]
      exact Scope.keepsLast_ofEvents (refusal?_of_deliveredTo (hm x hx) target)

/-- Annotations of two types; the first type comes again, under another descriptor and
    with an element that is set twice. -/
def repeatedAnnotations : List AnnotationEvent :=
  [⟨"La/A;", true, [("x", .int 1), ("z", .int 2)]⟩, ⟨"La/B;", false, []⟩,
    ⟨"La.A;", false, [("y", .int 3), ("x", .int 4), ("y", .int 5)]⟩]

/-- What is captured of them. -/
def capturedOnce : Scope := ⟨[("a.A", [("y", .int 5), ("x", .int 4)]), ("a.B", [])]⟩

/-- One type under two descriptors, with another in between, and an element set twice. -/
theorem last_instance_captured_repeated :
    let field : FieldDecl := ⟨⟨0⟩, "f", "I", none, none⟩
    let method : MethodDecl := ⟨⟨0⟩, "m", "(II)V", none, []⟩
    let onField := Latched.run FieldBuilder.capture (FieldBuilder.ofDecl "a/C" field)
      repeatedAnnotations
    let onParameter := Latched.run MethodBuilder.captureAt (MethodBuilder.ofDecl "a/C" method)
      (repeatedAnnotations.map (.parameter 1, ·))
    let events := .header ⟨⟨0⟩, "a/C", none, none, []⟩ :: repeatedAnnotations.map .annotated
    let onClass := events.foldl (fun b e => (b.feed e).1) (ClassBuilder.ofSettings {})
    (∀ r ∈ onField.2, r = .ok ()) ∧ (∀ r ∈ onParameter.2, r = .ok ()) ∧
    (∃ f, FieldBuilder.build onField.1 = .ok f ∧ f.annotations = capturedOnce ∧
      capturedOnce.KeepsLast repeatedAnnotations) ∧
    (∃ m, MethodBuilder.build onParameter.1 = .ok m ∧ (m.scope (.parameter 1)) = capturedOnce ∧
      (m.scope (.parameter 0)).KeepsLast []) ∧
    ∃ model, onClass.build = .ok model ∧ model.annotations.KeepsLast repeatedAnnotations := by
  intro field method onField onParameter events onClass
  obtain ⟨hfield, hmethod, hclass, -⟩ := last_instance_captured
  have hcaptured : Scope.ofEvents repeatedAnnotations = capturedOnce := rfl
  have hf : ∀ r ∈ onField.2, r = .ok () := by decide
  have hm : ∀ r ∈ onParameter.2, r = .ok () := by decide
  refine ⟨hf, hm, ?_, ?_, ?_⟩
  · obtain ⟨f, hbuild, hkept⟩ := hfield _ _ _ hf
    obtain ⟨-, rfl⟩ := FieldBuilder.build_run_eq_ok_iff.1 hbuild
    exact ⟨_, hbuild, hcaptured, hcaptured ▸ hkept⟩
  · obtain ⟨m, hbuild, hkept⟩ := hmethod _ _ _ hm
    obtain ⟨-, rfl⟩ := MethodBuilder.build_run_eq_ok_iff.1 hbuild
    have hscope := (MethodModel.scope_ofEvents "a/C" method
      (repeatedAnnotations.map (.parameter 1, ·))).2.2 (.parameter 1)
    exact ⟨_, hbuild, hscope.trans hcaptured, hkept (.parameter 0)⟩
  · obtain ⟨model, hbuild⟩ : ∃ model, onClass.build = .ok model :=
      exists_of_isSome_toOption (by decide +kernel)
    have hevents : events.filterMap (·.annotation?) = repeatedAnnotations := rfl
    exact ⟨model, hbuild, hevents ▸ (hclass {} events model hbuild).1⟩

end ClassCatalog
