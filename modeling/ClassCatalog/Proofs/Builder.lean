/-
  What the events of a class do to its builder.

  * `deliver_of_failed`, `deliver_ok`, `deliver_error`: an event of a latched
    state, by what was latched and what the event answers;
  * `identity?_visitWith_of_ne`, `identity?_visitWith_header`: an event changes
    what is known of the header only if it is an accepted header;
  * `build_ok`: a built class bears the header that its builder accepted.
-/
import ClassCatalog.Build.Class
import ClassCatalog.Proofs.Name

namespace ClassCatalog

/-! ## Latched states -/

namespace Latched

variable {σ α : Type} {b : Latched σ} {event : σ → Except BuildError (σ × α)}

theorem deliver_of_failed {cause : String} (h : b.failure? = some cause) :
    b.deliver event = (b, .error (.aborted cause)) := by
  rw [deliver, h]

theorem deliver_ok {s : σ} {a : α} (h : b.failure? = none) (he : event b.state = .ok (s, a)) :
    b.deliver event = ({ b with state := s }, .ok a) := by
  rw [deliver, h]; simp only [he]

theorem deliver_error {e : BuildError} (h : b.failure? = none) (he : event b.state = .error e) :
    b.deliver event = ({ b with failure? := some e.message }, .error e) := by
  rw [deliver, h]; simp only [he]

/-- An event that is answered came first and left its state; one that is refused
    leaves the state as it was. -/
theorem deliver_cases (b : Latched σ) (event : σ → Except BuildError (σ × α)) :
    (∃ s a, event b.state = .ok (s, a) ∧ b.deliver event = (⟨s, b.failure?⟩, .ok a)) ∨
      ∃ b' e, b.deliver event = (b', .error e) ∧ b'.state = b.state := by
  cases hf : b.failure? with
  | some cause => exact Or.inr ⟨b, _, deliver_of_failed hf, rfl⟩
  | none =>
    cases he : event b.state with
    | ok p => exact Or.inl ⟨p.1, p.2, rfl, by rw [deliver_ok hf he, hf]⟩
    | error e => exact Or.inr ⟨_, e, deliver_error hf he, rfl⟩

end Latched

/-! ## Events -/

namespace ClassDraft

variable {d d' : ClassDraft} {sink : Sink}

theorem header_ok {h : ClassHeader} (hd : d.header h = .ok (d', sink)) :
    ∃ i, d'.identity? = some i ∧ i.header = h := by
  unfold header identify at hd
  split at hd
  · cases hd
  · dsimp only at hd
    split at hd
    · cases hd; exact ⟨_, rfl, rfl⟩
    · split_ifs at hd
      · cases hd
      · cases hd; exact ⟨_, rfl, rfl⟩

theorem annotate_ok {descriptor : String} {visible : Bool}
    (hd : d.annotate descriptor visible = .ok (d', sink)) : d'.identity? = d.identity? := by
  unfold annotate at hd
  cases ho : d.owner .annotate with
  | error e => rw [ho] at hd; cases hd
  | ok o =>
    rw [ho] at hd
    cases ha : d.annotations.annotate descriptor visible with
    | error e => simp only [ha] at hd; cases hd
    | ok p => simp only [ha] at hd; cases hd; rfl

theorem field_ok {decl : FieldDecl} (hd : d.field decl = .ok (d', sink)) :
    d'.identity? = d.identity? := by
  unfold field at hd
  cases ho : d.owner .field with
  | error e => rw [ho] at hd; cases hd
  | ok o => rw [ho] at hd; cases hd; rfl

theorem method_ok {decl : MethodDecl} (hd : d.method decl = .ok (d', sink)) :
    d'.identity? = d.identity? := by
  unfold method at hd
  cases ho : d.owner .method with
  | error e => rw [ho] at hd; cases hd
  | ok o => rw [ho] at hd; cases hd; rfl

theorem build_ok {model : ClassModel} (h : d.build = .ok model) :
    ∃ i, d.identity? = some i ∧ model.header = i.header ∧
      model.qualifiedName = i.qualifiedName := by
  unfold build at h
  split at h
  · cases h
  · rename_i i hi
    refine ⟨i, hi, ?_⟩
    cases hf : d.fields.reverse.mapM (·.build) with
    | error err => rw [hf] at h; cases h
    | ok fields =>
      cases hm : d.methods.reverse.mapM (·.build) with
      | error err => rw [hf, hm] at h; cases h
      | ok methods => rw [hf, hm] at h; cases h; exact ⟨rfl, rfl⟩

end ClassDraft

namespace ClassBuilder

variable {b : ClassBuilder} {e : Event} {values : List (String × ElementValue)}

@[simp] theorem identity?_record (b : ClassBuilder) (sink : Sink) (name : String)
    (value : ElementValue) : (b.record sink name value).state.identity? = b.state.identity? := by
  cases sink <;> rfl

@[simp] theorem identity?_recordAll (sink : Sink) (values : List (String × ElementValue)) :
    ∀ b : ClassBuilder, (b.recordAll sink values).state.identity? = b.state.identity? := by
  induction values with
  | nil => exact fun _ => rfl
  | cons v values ih => exact fun b => (ih _).trans (identity?_record b sink v.1 v.2)

theorem visitWith_of_ok {b' : ClassBuilder} {sink : Sink} (h : b.visit e = (b', .ok sink)) :
    b.visitWith e values = (b'.recordAll sink values, .ok ()) := by
  rw [visitWith, h]

theorem visitWith_of_error {b' : ClassBuilder} {err : BuildError}
    (h : b.visit e = (b', .error err)) :
    b.visitWith e values = (b', .error err) := by
  rw [visitWith, h]

/-- An event that is no header leaves what is known of the header. -/
theorem identity?_visitWith_of_ne (he : ∀ h, e ≠ .header h) :
    (b.visitWith e values).1.state.identity? = b.state.identity? := by
  have key : ∀ event : ClassDraft → Except BuildError (ClassDraft × Sink),
      (∀ d d' sink, event d = .ok (d', sink) → d'.identity? = d.identity?) →
      (b.deliver event).1.state.identity? = b.state.identity? := by
    intro event hev
    rcases b.deliver_cases event with ⟨s, a, hs, hd⟩ | ⟨b', e, hd, hb⟩ <;> rw [hd]
    · exact hev _ _ _ hs
    · exact congrArg ClassDraft.identity? hb
  have hv : (b.visit e).1.state.identity? = b.state.identity? := by
    cases e with
    | header h => exact absurd rfl (he h)
    | classAnnotated => exact key _ fun _ _ _ => ClassDraft.annotate_ok
    | field => exact key _ fun _ _ _ => ClassDraft.field_ok
    | method => exact key _ fun _ _ _ => ClassDraft.method_ok
    | fieldAnnotated => rw [visit, annotateField]; split <;> rfl
    | methodAnnotated => rw [visit, annotateMethod]; split <;> rfl
    | parameterAnnotated => rw [visit, annotateMethod]; split <;> rfl
  rcases hr : b.visit e with ⟨b', sink | err⟩ <;> rw [hr] at hv
  · rw [visitWith_of_error hr]; exact hv
  · rw [visitWith_of_ok hr, identity?_recordAll]; exact hv

/-- A header is accepted and known from then on, or refused without a trace. -/
theorem identity?_visitWith_header (b : ClassBuilder) (h : ClassHeader)
    (values : List (String × ElementValue)) :
    ((b.visitWith (.header h) values).2 = .ok () ∧
      ∃ i, (b.visitWith (.header h) values).1.state.identity? = some i ∧ i.header = h) ∨
    ((∃ err, (b.visitWith (.header h) values).2 = .error err) ∧
      (b.visitWith (.header h) values).1.state.identity? = b.state.identity?) := by
  rcases b.deliver_cases (·.header h) with ⟨s, sink, hs, hd⟩ | ⟨b', err, hd, hb⟩
  · rw [visitWith_of_ok (e := .header h) hd]
    obtain ⟨i, hi, hh⟩ := ClassDraft.header_ok hs
    exact Or.inl ⟨rfl, i, by rw [identity?_recordAll, hi], hh⟩
  · rw [visitWith_of_error (e := .header h) hd]
    exact Or.inr ⟨⟨err, rfl⟩, congrArg ClassDraft.identity? hb⟩

/-- A built class bears the header that its builder accepted. -/
theorem build_ok {model : ClassModel} (h : b.build = .ok model) :
    ∃ i, b.state.identity? = some i ∧ model.header = i.header ∧
      model.qualifiedName = i.qualifiedName := by
  unfold build Latched.complete at h
  split at h
  · cases h
  · exact ClassDraft.build_ok h

/-- The qualified name of a built class is that of its internal name. -/
theorem build_qualifiedName {model : ClassModel} (h : b.build = .ok model) :
    ∃ name, b.name? = some name ∧ model.qualifiedName = Name.qualified name := by
  obtain ⟨i, hi, -, hq⟩ := build_ok h
  exact ⟨i.header.name, by rw [name?, hi]; rfl, hq.trans i.named⟩

end ClassBuilder

end ClassCatalog
