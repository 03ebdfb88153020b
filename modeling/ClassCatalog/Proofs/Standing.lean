/-
  How a class stands with its builder.

  All that the end of a build depends on, beside the catalog, is small: the
  first refusal of the class, its name, and the first refusals of its fields
  and of its methods.

  * `Standing.feed` is what an event makes of a standing;
  * `standing_feed`: the builder does the same, and says so in its reply;
  * `build_of_verdict`: the end of a build is decided by the standing.
-/
import ClassCatalog.Proofs.Faults

namespace ClassCatalog

/-! ## Standings -/

/-- How a class stands: the text of its first refusal, its name, and the texts of
    the first refusals of its fields and methods, in order of declaration. -/
structure Standing where
  settings : Settings
  failure? : Option String := none
  name? : Option String := none
  fieldFailure? : Option String := none
  methodFailure? : Option String := none

namespace Standing

/-- What an event makes of a standing. -/
def feed (t : Standing) (e : ClassEvent) : Standing :=
  match t.failure?, e.refusal? t.settings t.name? with
  | some _, _ => t
  | none, some error => { t with failure? := some error.message }
  | none, none =>
    { t with
      name? := t.name?.or e.name?
      fieldFailure? := t.fieldFailure?.or (e.fieldFault?.map (·.message))
      methodFailure? := t.methodFailure?.or (e.methodFault?.map (·.message)) }

/-- Why the class is not built: of several reasons the first of its own, then
    that it has no header, then the first of a field, then that of a method. -/
def verdict (t : Standing) : Option BuildError :=
  match t.failure?, t.name? with
  | some cause, _ => some (.aborted cause)
  | none, none => some (.missingHeader .finish)
  | none, some _ => (t.fieldFailure?.or t.methodFailure?).map .aborted

end Standing

/-- How the class of a builder stands. -/
def ClassBuilder.standing (b : ClassBuilder) : Standing where
  settings := b.state.settings
  failure? := b.failure?
  name? := b.name?
  fieldFailure? := b.state.fields.reverse.findSome? (·.failure?)
  methodFailure? := b.state.methods.reverse.findSome? (·.failure?)

/-! ## Events of the class -/

namespace ClassBuilder

variable {b : ClassBuilder} {e : Event}
  (event : ClassDraft → Except BuildError (ClassDraft × Sink))

/-- An event of the class is refused by its own fault, if there was none before. -/
theorem visitWith_of_refused {err : BuildError} (hv : b.visit e = b.deliver event)
    (hf : b.failure? = none) (he : event b.state = .error err)
    (values : List (String × ElementValue)) :
    b.visitWith e values = ({ b with failure? := some err.message }, .error err) :=
  visitWith_of_error (hv.trans (Latched.deliver_error hf he))

theorem visitWith_of_accepted {d : ClassDraft} {sink : Sink} (hv : b.visit e = b.deliver event)
    (hf : b.failure? = none) (he : event b.state = .ok (d, sink))
    (values : List (String × ElementValue)) :
    b.visitWith e values = (ClassBuilder.recordAll { b with state := d } sink values, .ok ()) :=
  visitWith_of_ok (hv.trans (Latched.deliver_ok hf he))

theorem visitWith_of_failed {cause : String} (hv : b.visit e = b.deliver event)
    (hf : b.failure? = some cause) (values : List (String × ElementValue)) :
    b.visitWith e values = (b, .error (.aborted cause)) :=
  visitWith_of_error (hv.trans (Latched.deliver_of_failed hf))

/-- The element values of a class annotation make no difference to how it
    stands. -/
theorem standing_recordAll (t : String) (values : List (String × ElementValue)) :
    ∀ b : ClassBuilder, (b.recordAll (.onClass t) values).standing = b.standing := by
  induction values with
  | nil => exact fun _ => rfl
  | cons _ values ih => exact fun b => ih _

theorem recordAll_nowhere (b : ClassBuilder) : b.recordAll .nowhere [] = b := rfl

end ClassBuilder

namespace ClassDraft

variable {d : ClassDraft}

/-- The name of the class, once it is known. -/
def name? (d : ClassDraft) : Option String := d.identity?.map (·.header.name)

theorem header_cases (d : ClassDraft) (h : ClassHeader) :
    (∃ err, (ClassEvent.header h).refusal? d.settings d.name? = some err ∧
      d.header h = .error err) ∨
      ∃ i, (ClassEvent.header h).refusal? d.settings d.name? = none ∧ d.identity? = none ∧
        i.header = h ∧ d.header h = .ok ({ d with identity? := some i }, .nowhere) := by
  unfold header identify ClassEvent.refusal? name?
  cases hi : d.identity? with
  | some first => exact Or.inl ⟨_, rfl, rfl⟩
  | none =>
    dsimp only [Option.map_none]
    cases hs : Name.split (Name.qualified h.name) with
    | none =>
      obtain ⟨h₁, h₂⟩ := (Name.split_qualified_eq_none_iff h.name).1 hs
      cases hr : d.settings.requirePackage with
      | true => exact Or.inl ⟨_, if_pos ⟨rfl, h₁, h₂⟩, rfl⟩
      | false =>
        refine Or.inr
          ⟨⟨h, Name.qualified h.name, "", Name.qualified h.name, rfl⟩, ?_, rfl, rfl, rfl⟩
        simp
    | some p =>
      have hp : ¬ ('/' ∉ h.name.toList ∧ '.' ∉ h.name.toList) := fun hp => by
        rw [(Name.split_qualified_eq_none_iff h.name).2 hp] at hs
        cases hs
      refine Or.inr ⟨⟨h, Name.qualified h.name, p.1, p.2, rfl⟩, ?_, rfl, rfl, rfl⟩
      rw [if_neg fun hh => hp hh.2]

theorem owner_cases (d : ClassDraft) (step : BuildStep) :
    (d.name? = none ∧ d.owner step = .error (.missingHeader step)) ∨
      ∃ name, d.name? = some name ∧ d.owner step = .ok name := by
  unfold owner name?
  cases d.identity? with
  | none => exact Or.inl ⟨rfl, rfl⟩
  | some i => exact Or.inr ⟨_, rfl, rfl⟩

theorem annotate_cases (d : ClassDraft) (a : AnnotationEvent) :
    (∃ err, (ClassEvent.annotated a).refusal? d.settings d.name? = some err ∧
        d.annotate a.descriptor a.visible = .error err) ∨
      ∃ scope t, (ClassEvent.annotated a).refusal? d.settings d.name? = none ∧
        d.annotate a.descriptor a.visible = .ok ({ d with annotations := scope }, .onClass t) := by
  unfold annotate ClassEvent.refusal?
  rcases d.owner_cases .annotate with ⟨hn, ho⟩ | ⟨name, hn, ho⟩ <;> rw [hn, ho]
  · exact Or.inl ⟨_, rfl, rfl⟩
  · rcases annotationType_eq a with ⟨t, ht, hr⟩ | ⟨err, he, hr⟩
    · refine Or.inr ⟨d.annotations.start t, t, hr, ?_⟩
      rw [Scope.annotate, ht]
      rfl
    · refine Or.inl ⟨err, hr, ?_⟩
      rw [Scope.annotate, he]
      rfl

theorem field_cases (d : ClassDraft) (decl : FieldDecl) (annotations : List AnnotationEvent) :
    (∃ err, (ClassEvent.field decl annotations).refusal? d.settings d.name? = some err ∧
        d.field decl = .error err) ∨
      ∃ name, (ClassEvent.field decl annotations).refusal? d.settings d.name? = none ∧
        d.field decl = .ok ({ d with fields := .ofDecl name decl :: d.fields }, .nowhere) := by
  unfold field ClassEvent.refusal?
  rcases d.owner_cases .field with ⟨hn, ho⟩ | ⟨name, hn, ho⟩ <;> rw [hn, ho]
  · exact Or.inl ⟨_, rfl, rfl⟩
  · exact Or.inr ⟨name, rfl, rfl⟩

theorem method_cases (d : ClassDraft) (decl : MethodDecl)
    (annotations : List (MethodTarget × AnnotationEvent)) :
    (∃ err, (ClassEvent.method decl annotations).refusal? d.settings d.name? = some err ∧
        d.method decl = .error err) ∨
      ∃ name positions,
        (ClassEvent.method decl annotations).refusal? d.settings d.name? = none ∧
        d.method decl = .ok ({ d with
          methods := .ofDecl name decl :: d.methods
          constructorPositions := positions }, .nowhere) := by
  unfold method ClassEvent.refusal?
  rcases d.owner_cases .method with ⟨hn, ho⟩ | ⟨name, hn, ho⟩ <;> rw [hn, ho]
  · exact Or.inl ⟨_, rfl, rfl⟩
  · exact Or.inr ⟨name, _, rfl, rfl⟩

end ClassDraft

/-! ## The builder does the same -/

/-- The refusal of a class-level event, as its reply has it. -/
def Reply.refusal? : Reply → Option BuildError
  | event r => ClassCatalog.refusal? r
  | member r => ClassCatalog.refusal? r
  | _ => none

/-- The first refusal of the annotations of a member, as its reply has it. -/
def Reply.fault? : Reply → Option BuildError
  | member (.ok rs) => rs.findSome? ClassCatalog.refusal?
  | _ => none

/-- The first refusal of the annotations of a member. -/
def ClassEvent.fault? (e : ClassEvent) : Option BuildError := e.fieldFault?.or e.methodFault?

/-- The refusal of an event, as the class stands. -/
def Standing.refusal? (t : Standing) (e : ClassEvent) : Option BuildError :=
  match t.failure? with
  | some cause => some (.aborted cause)
  | none => e.refusal? t.settings t.name?

namespace ClassBuilder

variable {b : ClassBuilder} {e : ClassEvent}

theorem feed_of_failed {cause : String} (hf : b.failure? = some cause) :
    (b.feed e).1 = b ∧ (b.feed e).2.refusal? = some (.aborted cause) := by
  cases e with
  | header h =>
    rw [feed, visitWith_of_failed (·.header h) rfl hf]
    exact ⟨rfl, rfl⟩
  | annotated a =>
    rw [feed, visitWith_of_failed (·.annotate a.descriptor a.visible) rfl hf]
    exact ⟨rfl, rfl⟩
  | field decl =>
    rw [feed, visitMember, visitWith_of_failed (·.field decl) rfl hf]
    exact ⟨rfl, rfl⟩
  | method decl =>
    rw [feed, visitMember, visitWith_of_failed (·.method decl) rfl hf]
    exact ⟨rfl, rfl⟩

theorem feed_of_refused {err : BuildError} (hf : b.failure? = none)
    (he : e.refusal? b.state.settings b.name? = some err) :
    (b.feed e).1 = { b with failure? := some err.message } ∧ (b.feed e).2.refusal? = some err := by
  cases e with
  | header h =>
    rcases b.state.header_cases h with ⟨err', hr, hd⟩ | ⟨i, hr, -⟩
    · cases he.symm.trans hr
      rw [feed, visitWith_of_refused (·.header h) rfl hf hd]
      exact ⟨rfl, rfl⟩
    · cases he.symm.trans hr
  | annotated a =>
    rcases b.state.annotate_cases a with ⟨err', hr, hd⟩ | ⟨scope, t, hr, -⟩
    · cases he.symm.trans hr
      rw [feed, visitWith_of_refused (·.annotate a.descriptor a.visible) rfl hf hd]
      exact ⟨rfl, rfl⟩
    · cases he.symm.trans hr
  | field decl annotations =>
    rcases b.state.field_cases decl annotations with ⟨err', hr, hd⟩ | ⟨name, hr, -⟩
    · cases he.symm.trans hr
      rw [feed, visitMember, visitWith_of_refused (·.field decl) rfl hf hd]
      exact ⟨rfl, rfl⟩
    · cases he.symm.trans hr
  | method decl annotations =>
    rcases b.state.method_cases decl annotations with ⟨err', hr, hd⟩ | ⟨name, positions, hr, -⟩
    · cases he.symm.trans hr
      rw [feed, visitMember, visitWith_of_refused (·.method decl) rfl hf hd]
      exact ⟨rfl, rfl⟩
    · cases he.symm.trans hr

theorem visitMember_of_accepted {b' : ClassBuilder} {e : Event} {u : Unit}
    {annotations : List (Event × List (String × ElementValue))}
    (h : b.visitWith e [] = (b', .ok u)) :
    b.visitMember e annotations =
      ((b'.visitAll annotations).1, .ok (b'.visitAll annotations).2) := by
  rw [visitMember, h]

theorem standing_onField (b : ClassBuilder) (f : FieldBuilder) (g : FieldBuilder → FieldBuilder) :
    standing (Latched.mapState
        { b with state := { b.state with fields := f :: b.state.fields } } (fieldView.on g)) =
      { b.standing with fieldFailure? := b.standing.fieldFailure?.or (g f).failure? } := by
  have h : (g f :: b.state.fields).reverse.findSome? (fun f : FieldBuilder => f.failure?) =
      b.standing.fieldFailure?.or (g f).failure? := by
    rw [List.reverse_cons, List.findSome?_append, List.findSome?_singleton]
    rfl
  exact congrArg (fun x => { b.standing with fieldFailure? := x }) h

theorem standing_onMethod (b : ClassBuilder) (m : MethodBuilder) (positions : List Nat)
    (g : MethodBuilder → MethodBuilder) :
    standing (Latched.mapState { b with state := { b.state with
          methods := m :: b.state.methods, constructorPositions := positions } }
        (methodView.on g)) =
      { b.standing with methodFailure? := b.standing.methodFailure?.or (g m).failure? } := by
  have h : (g m :: b.state.methods).reverse.findSome? (fun m : MethodBuilder => m.failure?) =
      b.standing.methodFailure?.or (g m).failure? := by
    rw [List.reverse_cons, List.findSome?_append, List.findSome?_singleton]
    rfl
  exact congrArg (fun x => { b.standing with methodFailure? := x }) h

theorem feed_of_accepted (hf : b.failure? = none)
    (he : e.refusal? b.state.settings b.name? = none) :
    (b.feed e).1.standing = { b.standing with
        name? := b.name?.or e.name?
        fieldFailure? := b.standing.fieldFailure?.or (e.fieldFault?.map (·.message))
        methodFailure? := b.standing.methodFailure?.or (e.methodFault?.map (·.message)) } ∧
      (b.feed e).2.refusal? = none ∧ (b.feed e).2.fault? = e.fault? := by
  cases e with
  | header h =>
    rcases b.state.header_cases h with ⟨err', hr, hd⟩ | ⟨i, hr, hi, hh, hd⟩
    · cases he.symm.trans hr
    · rw [feed, visitWith_of_accepted (·.header h) rfl hf hd, recordAll_nowhere]
      refine ⟨?_, rfl, rfl⟩
      simp [standing, name?, hi, hh, ClassEvent.name?, ClassEvent.fieldFault?,
        ClassEvent.methodFault?]
  | annotated a =>
    rcases b.state.annotate_cases a with ⟨err', hr, hd⟩ | ⟨scope, t, hr, hd⟩
    · cases he.symm.trans hr
    · rw [feed, visitWith_of_accepted (·.annotate a.descriptor a.visible) rfl hf hd]
      refine ⟨?_, rfl, rfl⟩
      rw [standing_recordAll]
      simp [standing, name?, ClassEvent.name?, ClassEvent.fieldFault?, ClassEvent.methodFault?]
  | field decl annotations =>
    rcases b.state.field_cases decl annotations with ⟨err', hr, hd⟩ | ⟨name, hr, hd⟩
    · cases he.symm.trans hr
    · have hv : b.visitWith (.field decl) [] = ({ b with state := { b.state with
          fields := .ofDecl name decl :: b.state.fields } }, .ok ()) :=
        visitWith_of_accepted (·.field decl) rfl hf hd []
      obtain ⟨g, hg, hgf, hrs⟩ := fieldView.visitAll visitWith_fieldEvent annotations
        { b with state := { b.state with fields := .ofDecl name decl :: b.state.fields } }
        (FieldBuilder.ofDecl name decl) rfl
      rw [feed, visitMember_of_accepted hv]
      refine ⟨?_, rfl, ?_⟩
      · rw [hg, standing_onField, hgf]
        simp [standing, name?, ClassEvent.name?, ClassEvent.fieldFault?, ClassEvent.methodFault?,
          FieldBuilder.ofDecl]
      · refine (hrs rfl).trans ?_
        simp [ClassEvent.fault?, ClassEvent.fieldFault?, ClassEvent.methodFault?]
  | method decl annotations =>
    rcases b.state.method_cases decl annotations with ⟨err', hr, hd⟩ | ⟨name, positions, hr, hd⟩
    · cases he.symm.trans hr
    · have hv : b.visitWith (.method decl) [] = ({ b with state := { b.state with
          methods := .ofDecl name decl :: b.state.methods
          constructorPositions := positions } }, .ok ()) :=
        visitWith_of_accepted (·.method decl) rfl hf hd []
      obtain ⟨g, hg, hgf, hrs⟩ := methodView.visitAll visitWith_methodEvent annotations
        { b with state := { b.state with
          methods := .ofDecl name decl :: b.state.methods, constructorPositions := positions } }
        (MethodBuilder.ofDecl name decl) rfl
      rw [feed, visitMember_of_accepted hv]
      refine ⟨?_, rfl, ?_⟩
      · rw [hg, standing_onMethod, hgf]
        simp [standing, name?, ClassEvent.name?, ClassEvent.fieldFault?, ClassEvent.methodFault?,
          MethodBuilder.ofDecl]
      · refine (hrs rfl).trans ?_
        simp [ClassEvent.fault?, ClassEvent.fieldFault?, ClassEvent.methodFault?]

/-- **Standings.**  An event makes of the standing of a builder what it makes of
    standings, and the reply tells what was wrong with it. -/
theorem standing_feed (b : ClassBuilder) (e : ClassEvent) :
    (b.feed e).1.standing = b.standing.feed e ∧
      (b.feed e).2.refusal? = b.standing.refusal? e ∧
      (b.standing.refusal? e = none → (b.feed e).2.fault? = e.fault?) := by
  unfold Standing.feed Standing.refusal?
  cases hf : b.standing.failure? with
  | some cause =>
    obtain ⟨h₁, h₂⟩ := feed_of_failed (e := e) hf
    exact ⟨congrArg standing h₁, h₂, nofun⟩
  | none =>
    cases he : e.refusal? b.standing.settings b.standing.name? with
    | some err =>
      obtain ⟨h₁, h₂⟩ := feed_of_refused hf he
      exact ⟨congrArg standing h₁, h₂, nofun⟩
    | none =>
      obtain ⟨h₁, h₂, h₃⟩ := feed_of_accepted hf he
      refine ⟨h₁.trans ?_, h₂, fun _ => h₃⟩
      simp only [hf]
      rfl

end ClassBuilder

/-! ## The end of a build -/

/-- Of latched members the first that was refused refuses them all. -/
theorem mapM_complete {σ : Type} (members : List (Latched σ)) :
    members.mapM (fun m => m.complete .ok) =
      match members.findSome? (·.failure?) with
      | some cause => .error (.aborted cause)
      | none => .ok (members.map (·.state)) := by
  induction members with
  | nil => rfl
  | cons m members ih =>
    rw [List.mapM_cons, ih, List.findSome?_cons, Latched.complete]
    cases m.failure? with
    | some cause => rfl
    | none => cases members.findSome? (·.failure?) <;> rfl

namespace ClassBuilder

theorem build_of_verdict (b : ClassBuilder) :
    match b.standing.verdict with
    | some error => b.build = .error error
    | none => ∃ model, b.build = .ok model := by
  have hfields : b.state.fields.reverse.mapM (fun f : FieldBuilder => f.build) = _ :=
    mapM_complete b.state.fields.reverse
  have hmethods : b.state.methods.reverse.mapM (fun m : MethodBuilder => m.build) = _ :=
    mapM_complete b.state.methods.reverse
  unfold Standing.verdict standing build Latched.complete name?
  cases b.failure? with
  | some cause => rfl
  | none =>
    dsimp only
    unfold ClassDraft.build
    cases b.state.identity? with
    | none => rfl
    | some i =>
      dsimp only [Option.map_some]
      rw [hfields, hmethods]
      cases b.state.fields.reverse.findSome? (fun f : FieldBuilder => f.failure?) with
      | some cause => rfl
      | none =>
        cases b.state.methods.reverse.findSome? (fun m : MethodBuilder => m.failure?) with
        | some cause => rfl
        | none => exact ⟨_, rfl⟩

end ClassBuilder

end ClassCatalog
