/-
  What is wrong with the events of a class.

  * `ClassEvent.refusal?`: the fault of an event of the class;
  * `ClassEvent.fieldFault?`, `ClassEvent.methodFault?`: the first fault among
    the annotations of a member;
  * `MemberView.visitAll`: the annotations of a member go to the one declared
    last of its kind, which keeps the first of their faults.
-/
import ClassCatalog.Proofs.Events

namespace ClassCatalog

/-! ## What is wrong with an event -/

/-- The refusal of a result. -/
def refusal? {α : Type} : Except BuildError α → Option BuildError
  | .error e => some e
  | .ok _ => none

/-- The refusal of an annotation: its descriptor names no type. -/
def AnnotationEvent.refusal? (a : AnnotationEvent) : Option BuildError :=
  match FieldType.fieldTypeName a.descriptor with
  | .ok _ => none
  | .error e => some (.invalidDescriptor e)

namespace ClassEvent

/-- The name that a header gives to the class. -/
def name? : ClassEvent → Option String
  | header h => some h.name
  | _ => none

/-- The refusal of an event, once the class has the name `first?`. -/
def refusal? (settings : Settings) (first? : Option String) : ClassEvent → Option BuildError
  | header h =>
    match first? with
    | some first => some (.duplicateHeader first h.name)
    | none =>
      if settings.requirePackage ∧ '/' ∉ h.name.toList ∧ '.' ∉ h.name.toList then
        some (.missingPackage (Name.qualified h.name))
      else none
  | annotated a => if first?.isNone then some (.missingHeader .annotate) else a.refusal?
  | field .. => if first?.isNone then some (.missingHeader .field) else none
  | method .. => if first?.isNone then some (.missingHeader .method) else none

/-- The first refusal of an annotation of the field. -/
def fieldFault? : ClassEvent → Option BuildError
  | field _ annotations => annotations.findSome? (·.refusal?)
  | _ => none

/-- The first refusal of an annotation of the method or of its parameters. -/
def methodFault? : ClassEvent → Option BuildError
  | method _ annotations => annotations.findSome? (·.2.refusal?)
  | _ => none

end ClassEvent

/-! ## Members -/

theorem annotationType_eq (a : AnnotationEvent) :
    (∃ t, annotationType a.descriptor = .ok t ∧ a.refusal? = none) ∨
      ∃ e, annotationType a.descriptor = .error e ∧ a.refusal? = some e := by
  unfold annotationType AnnotationEvent.refusal?
  cases FieldType.fieldTypeName a.descriptor with
  | ok t => exact Or.inl ⟨t, rfl, rfl⟩
  | error e => exact Or.inr ⟨_, rfl, rfl⟩

theorem refusal?_map {α β : Type} (f : α → β) (r : Except BuildError α) :
    refusal? (r.map f) = refusal? r := by
  cases r <;> rfl

/-- An annotation is refused by itself, whatever the scope has. -/
theorem Scope.refusal?_annotate (s : Scope) (a : AnnotationEvent) :
    refusal? (s.annotate a.descriptor a.visible) = a.refusal? := by
  rw [annotate, refusal?_map]
  rcases annotationType_eq a with ⟨t, ht, hr⟩ | ⟨e, he, hr⟩
  · rw [ht, hr]
    rfl
  · rw [he, hr]
    rfl

/-- An event in a latched member: it is refused if an earlier one was, or by its own
    fault. -/
theorem Latched.refusal?_deliver {σ α : Type} {f : Latched σ}
    {event : σ → Except BuildError (σ × α)} {fault? : Option BuildError}
    (h : refusal? (event f.state) = fault?) :
    (f.deliver event).1.failure? = f.failure?.or (fault?.map (·.message)) ∧
      (f.failure? = none → refusal? (f.deliver event).2 = fault?) := by
  subst h
  cases hf : f.failure? with
  | some cause =>
    rw [deliver_of_failed hf, hf]
    exact ⟨rfl, nofun⟩
  | none =>
    cases he : event f.state with
    | ok p =>
      rw [deliver_ok hf he]
      exact ⟨hf, fun _ => rfl⟩
    | error e =>
      rw [deliver_error hf he]
      exact ⟨rfl, fun _ => rfl⟩

/-- The members of a kind in a class: the one declared last, and how it is
    changed. -/
structure MemberView (μ : Type) where
  newest? : ClassDraft → Option (Latched μ)
  on : (Latched μ → Latched μ) → ClassDraft → ClassDraft
  on_id : ∀ d, on id d = d
  on_on : ∀ g h d, on h (on g d) = on (h ∘ g) d
  newest?_on : ∀ {g d f}, newest? d = some f → newest? (on g d) = some (g f)

/-- The fields of a class. -/
def fieldView : MemberView FieldModel where
  newest? d := d.fields.head?
  on g d := d.onField g
  on_id d := by
    rcases d with ⟨_, _, _ | _, _, _, _⟩ <;> rfl
  on_on g h d := by
    rcases d with ⟨_, _, _ | _, _, _, _⟩ <;> rfl
  newest?_on {g d f} h := by
    rcases d with ⟨_, _, _ | _, _, _, _⟩ <;> cases h
    rfl

/-- The methods of a class. -/
def methodView : MemberView MethodModel where
  newest? d := d.methods.head?
  on g d := d.onMethod g
  on_id d := by
    rcases d with ⟨_, _, _, _ | _, _, _⟩ <;> rfl
  on_on g h d := by
    rcases d with ⟨_, _, _, _ | _, _, _⟩ <;> rfl
  newest?_on {g d f} h := by
    rcases d with ⟨_, _, _, _ | _, _, _⟩ <;> cases h
    rfl

namespace MemberView

variable {μ α : Type} (v : MemberView μ)

/-- Element values are recorded in the newest member, and refuse nothing. -/
theorem recordAll {sink : Sink} {set : String → ElementValue → Latched μ → Latched μ}
    (hr : ∀ b name value,
      ClassBuilder.record b sink name value = b.mapState (v.on (set name value)))
    (hs : ∀ name value f, (set name value f).failure? = f.failure?)
    (values : List (String × ElementValue)) :
    ∃ g : Latched μ → Latched μ,
      (∀ b : ClassBuilder, b.recordAll sink values = b.mapState (v.on g)) ∧
      ∀ f, (g f).failure? = f.failure? := by
  induction values with
  | nil =>
    refine ⟨id, fun b => ?_, fun _ => rfl⟩
    rw [Latched.mapState, v.on_id]
    rfl
  | cons x values ih =>
    obtain ⟨g, hg, hf⟩ := ih
    refine ⟨g ∘ set x.1 x.2, fun b => ?_, fun f => (hf _).trans (hs x.1 x.2 f)⟩
    refine (hg (b.record sink x.1 x.2)).trans ?_
    rw [hr, Latched.mapState, Latched.mapState, v.on_on]
    rfl

/-- The annotations of a member go to the newest one: it has the first of their
    refusals, unless it was refused before. -/
theorem visitAll {event : α → Event × List (String × ElementValue)} {fault : α → Option BuildError}
    (hstep : ∀ a (b : ClassBuilder) f, v.newest? b.state = some f →
      ∃ g, (b.visitWith (event a).1 (event a).2).1 = b.mapState (v.on g) ∧
        (g f).failure? = f.failure?.or ((fault a).map (·.message)) ∧
        (f.failure? = none → refusal? (b.visitWith (event a).1 (event a).2).2 = fault a))
    (annotations : List α) :
    ∀ (b : ClassBuilder) f, v.newest? b.state = some f →
      ∃ g, (b.visitAll (annotations.map event)).1 = b.mapState (v.on g) ∧
        (g f).failure? = f.failure?.or ((annotations.findSome? fault).map (·.message)) ∧
        (f.failure? = none → (b.visitAll (annotations.map event)).2.findSome? refusal? =
          annotations.findSome? fault) := by
  induction annotations with
  | nil =>
    intro b f _
    refine ⟨id, ?_, by simp, fun _ => rfl⟩
    rw [Latched.mapState, v.on_id]
    rfl
  | cons a annotations ih =>
    intro b f hf
    obtain ⟨g, hg, hgf, hr⟩ := hstep a b f hf
    have hnew : v.newest? (b.mapState (v.on g)).state = some (g f) := v.newest?_on hf
    obtain ⟨h, hh, hhf, hrs⟩ := ih _ _ hnew
    rw [← hg] at hh hrs
    refine ⟨h ∘ g, ?_, ?_, fun hn => ?_⟩
    · refine hh.trans ?_
      rw [hg, Latched.mapState, Latched.mapState, v.on_on]
      rfl
    · rw [Function.comp_apply, hhf, hgf, List.findSome?_cons]
      cases fault a <;> simp
    · have hcons : (b.visitAll ((a :: annotations).map event)).2 =
          (b.visitWith (event a).1 (event a).2).2 ::
            ((b.visitWith (event a).1 (event a).2).1.visitAll (annotations.map event)).2 := rfl
      rw [hcons, List.findSome?_cons, List.findSome?_cons, hr hn]
      cases hfa : fault a with
      | some e => rfl
      | none =>
        refine hrs ?_
        rw [hgf, hn, hfa]
        rfl

/-- An annotation of the newest member, with its element values. -/
theorem visitWith {b : ClassBuilder} {e : Event} {f f' : Latched μ} {r : Except BuildError Sink}
    {fault : Option BuildError} (hv : b.visit e = (b.mapState (v.on fun _ => f'), r))
    (hf : f'.failure? = f.failure?.or (fault.map (·.message)) ∧
      (f.failure? = none → ClassCatalog.refusal? r = fault))
    (hrec : ∀ sink, r = .ok sink → ∃ set : String → ElementValue → Latched μ → Latched μ,
      (∀ b name value, ClassBuilder.record b sink name value = b.mapState (v.on (set name value))) ∧
        ∀ name value f, (set name value f).failure? = f.failure?)
    (values : List (String × ElementValue)) :
    ∃ g, (b.visitWith e values).1 = b.mapState (v.on g) ∧
      (g f).failure? = f.failure?.or (fault.map (·.message)) ∧
      (f.failure? = none → ClassCatalog.refusal? (b.visitWith e values).2 = fault) := by
  cases r with
  | error err =>
    rw [ClassBuilder.visitWith_of_error hv]
    exact ⟨fun _ => f', rfl, hf⟩
  | ok sink =>
    rw [ClassBuilder.visitWith_of_ok hv]
    obtain ⟨set, hset, hs⟩ := hrec sink rfl
    obtain ⟨g, hg, hgf⟩ := v.recordAll hset hs values
    refine ⟨g ∘ fun _ => f', ?_, (hgf f').trans hf.1, hf.2⟩
    dsimp only
    rw [hg, Latched.mapState, Latched.mapState, v.on_on]
    rfl

end MemberView

open Session (fieldEvent methodEvent)

theorem exists_of_map_eq_ok {ε α β : Type} {f : α → β} {r : Except ε α} {y : β}
    (h : r.map f = .ok y) : ∃ x, r = .ok x ∧ f x = y := by
  cases r <;> cases h
  exact ⟨_, rfl, rfl⟩

theorem exists_of_isSome_toOption {ε α : Type} {r : Except ε α} (h : r.toOption.isSome) :
    ∃ a, r = .ok a := by
  cases r with
  | error error => cases h
  | ok a => exact ⟨a, rfl⟩

/-- An annotation of the field declared last. -/
theorem visitWith_fieldEvent (a : AnnotationEvent) (b : ClassBuilder) (f : FieldBuilder)
    (hf : fieldView.newest? b.state = some f) :
    ∃ g, (b.visitWith (fieldEvent a).1 (fieldEvent a).2).1 = b.mapState (fieldView.on g) ∧
      (g f).failure? = f.failure?.or (a.refusal?.map (·.message)) ∧
      (f.failure? = none →
        refusal? (b.visitWith (fieldEvent a).1 (fieldEvent a).2).2 = a.refusal?) := by
  have hd : (f.annotate a.descriptor a.visible).1.failure? =
        f.failure?.or (a.refusal?.map (·.message)) ∧
      (f.failure? = none → refusal? (f.annotate a.descriptor a.visible).2 = a.refusal?) :=
    Latched.refusal?_deliver ((refusal?_map ..).trans (Scope.refusal?_annotate _ a))
  have hv : b.visit (fieldEvent a).1 =
      (b.mapState (fieldView.on fun _ => (f.annotate a.descriptor a.visible).1),
        (f.annotate a.descriptor a.visible).2.map .onField) := by
    obtain ⟨fs, hfs⟩ := List.head?_eq_some_iff.1 hf
    rw [fieldEvent, ClassBuilder.visit, ClassBuilder.annotateField, hfs]
    rfl
  refine fieldView.visitWith hv ⟨hd.1, fun hn => ?_⟩ (fun sink hs => ?_) _
  · rw [refusal?_map]
    exact hd.2 hn
  · obtain ⟨t, -, rfl⟩ := exists_of_map_eq_ok hs
    exact ⟨fun name value f => FieldBuilder.onScope f (·.set t name value), fun _ _ _ => rfl,
      fun _ _ _ => rfl⟩

/-- An annotation of the method declared last, or of a parameter of it. -/
theorem visitWith_methodEvent (a : MethodTarget × AnnotationEvent) (b : ClassBuilder)
    (m : MethodBuilder) (hm : methodView.newest? b.state = some m) :
    ∃ g, (b.visitWith (methodEvent a).1 (methodEvent a).2).1 = b.mapState (methodView.on g) ∧
      (g m).failure? = m.failure?.or (a.2.refusal?.map (·.message)) ∧
      (m.failure? = none →
        refusal? (b.visitWith (methodEvent a).1 (methodEvent a).2).2 = a.2.refusal?) := by
  obtain ⟨target, a⟩ := a
  have hd : (m.annotate target a.descriptor a.visible).1.failure? =
        m.failure?.or (a.refusal?.map (·.message)) ∧
      (m.failure? = none → refusal? (m.annotate target a.descriptor a.visible).2 = a.refusal?) :=
    Latched.refusal?_deliver ((refusal?_map ..).trans (Scope.refusal?_annotate _ a))
  have hv : b.visit (methodEvent (target, a)).1 =
      (b.mapState (methodView.on fun _ => (m.annotate target a.descriptor a.visible).1),
        (m.annotate target a.descriptor a.visible).2.map (.onMethod target)) := by
    obtain ⟨ms, hms⟩ := List.head?_eq_some_iff.1 hm
    cases target <;>
    · rw [methodEvent, ClassBuilder.visit, ClassBuilder.annotateMethod, hms]
      rfl
  refine methodView.visitWith hv ⟨hd.1, fun hn => ?_⟩ (fun sink hs => ?_) _
  · rw [refusal?_map]
    exact hd.2 hn
  · obtain ⟨t, -, rfl⟩ := exists_of_map_eq_ok hs
    exact ⟨fun name value m => MethodBuilder.onScope m target (·.set t name value),
      fun _ _ _ => rfl, fun _ _ _ => rfl⟩

end ClassCatalog
