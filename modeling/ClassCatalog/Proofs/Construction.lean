/-
  Classes under construction, fed one event at a time.

  * `Construction` is a builder with the catalog that it builds for; its visitor
    does what a session does for a builder (`Session.deliver_eq_feed`);
  * `Construction.Enrolled`: of its catalog, a construction has changed nothing but
    that the class is registered once the builder knows its name;
  * `read_eq_feed`: a class file is read by feeding its script to a new
    construction;
  * `accept_faithful`: how much of its script a file gives to a visitor that may
    refuse events.
-/
import ClassCatalog.Proofs.Replay
import ClassCatalog.Proofs.Reading
import ClassCatalog.Proofs.Standing

namespace ClassCatalog

open ClassFile (ReadError)

/-! ## Names of classes -/

namespace ClassBuilder

/-- An event that is no header leaves the name of the class. -/
theorem name?_visit_of_ne {b : ClassBuilder} {e : Event} (he : ∀ h, e ≠ .header h) :
    (b.visit e).1.name? = b.name? := by
  have hv : (b.visitWith e []).1 = (b.visit e).1 := by
    rcases h : b.visit e with ⟨b', error | sink⟩
    · rw [visitWith_of_error h]
    · rw [visitWith_of_ok h]
      rfl
  rw [name?, name?, ← hv, identity?_visitWith_of_ne he]

/-- A header is accepted iff it makes the name of the class known. -/
theorem name?_visit_header (b : ClassBuilder) (h : ClassHeader) :
    (∃ sink, (b.visit (.header h)).2 = .ok sink ∧ b.name? = none ∧
        (b.visit (.header h)).1.name? = some h.name) ∨
      ∃ error, (b.visit (.header h)).2 = .error error ∧ (b.visit (.header h)).1.name? = b.name? := by
  rw [visit]
  rcases b.deliver_cases (·.header h) with ⟨d, sink, hd, hb⟩ | ⟨b', error, hb, hs⟩ <;> rw [hb]
  · rcases b.state.header_cases h with ⟨error, -, hd'⟩ | ⟨i, -, hi, rfl, hd'⟩
    · cases hd'.symm.trans hd
    · cases hd'.symm.trans hd
      refine Or.inl ⟨.nowhere, rfl, ?_, rfl⟩
      rw [name?, hi]
      rfl
  · refine Or.inr ⟨error, rfl, ?_⟩
    rw [name?, name?, hs]

section

variable {p : ClassBuilder × Sink} {e : Event} {b : ClassBuilder}

theorem visitor_visit_ok {sink : Sink} (h : p.1.visit e = (b, .ok sink)) :
    visitor.visit p e = ((b, sink), .ok ()) := by
  simp only [visitor, h]

theorem visitor_visit_error {error : BuildError} (h : p.1.visit e = (b, .error error)) :
    visitor.visit p e = ((b, .nowhere), .error error) := by
  simp only [visitor, h]

end

/-- A class that has a name keeps it. -/
theorem name?_feed {name : String} (script : List Recorded) {p : ClassBuilder × Sink}
    (h : p.1.name? = some name) : (visitor.feed p script).1.1.name? = some name := by
  induction script generalizing p with
  | nil => exact h
  | cons x script ih =>
    cases x with
    | event e =>
      have hn : (p.1.visit e).1.name? = some name := by
        by_cases he : ∃ header, e = .header header
        · obtain ⟨header, rfl⟩ := he
          rcases p.1.name?_visit_header header with ⟨-, -, hn, -⟩ | ⟨error, -, hn⟩
          · rw [h] at hn
            cases hn
          · rw [hn, h]
        · rw [name?_visit_of_ne fun header hh => he ⟨header, hh⟩, h]
      rcases hv : p.1.visit e with ⟨b, error | sink⟩ <;> rw [hv] at hn
      · rw [Visitor.feed_event_error (visitor_visit_error hv)]
        exact hn
      · rw [Visitor.feed_event_ok (visitor_visit_ok hv)]
        exact ih hn
    | element key value =>
      refine ih ?_
      rw [← h]
      exact congrArg (Option.map _) (identity?_record p.1 p.2 key value)

end ClassBuilder

/-! ## Constructions -/

/-- A builder, the catalog that it builds for, the slot that its header registered
    there, and where the element values of the annotation opened last go. -/
structure Construction where
  catalog : Catalog
  slot? : Option Nat := none
  builder : ClassBuilder
  sink : Sink := .nowhere

namespace Construction

/-- A new builder. -/
def start (c : Catalog) (s : Settings) : Construction := { catalog := c, builder := .ofSettings s }

/-- The visitor that builds a class for a catalog; an accepted header registers the
    class. -/
def visitor : Visitor Construction where
  visit k e :=
    let ((builder, sink), r) := ClassBuilder.visitor.visit (k.builder, k.sink) e
    let (catalog, slot?) := k.catalog.afterEvent k.slot? e r
    (⟨catalog, slot?, builder, sink⟩, r)
  element k name value :=
    let (builder, sink) := ClassBuilder.visitor.element (k.builder, k.sink) name value
    { k with builder, sink }

/-- Ends the build, and publishes the class in the slot that the builder holds. -/
def finish (k : Construction) (serial : Nat) : Catalog × Except BuildError Entry :=
  match k.catalog.finish k.slot? serial k.builder with
  | .ok (c, entry) => (c, .ok entry)
  | .error error => (k.catalog, .error error)

section

variable {k : Construction} {e : Event} {b : ClassBuilder}

/-- A build that fails at its end leaves the catalog as it was. -/
theorem finish_of_error {n : Nat} {error : BuildError} (h : (k.finish n).2 = .error error) :
    (k.finish n).1 = k.catalog := by
  unfold finish at h ⊢
  cases hf : k.catalog.finish k.slot? n k.builder with
  | error error => rfl
  | ok p => rw [hf] at h; cases h

theorem visit_ok {sink : Sink} (h : k.builder.visit e = (b, .ok sink)) :
    visitor.visit k e = (⟨(k.catalog.afterEvent k.slot? e (k.builder.visit e).2).1,
      (k.catalog.afterEvent k.slot? e (k.builder.visit e).2).2, b, sink⟩, .ok ()) := by
  simp only [visitor, ClassBuilder.visitor, h]
  cases e <;> rfl

theorem visit_error {error : BuildError} (h : k.builder.visit e = (b, .error error)) :
    visitor.visit k e = (⟨k.catalog, k.slot?, b, .nowhere⟩, .error error) := by
  simp only [visitor, ClassBuilder.visitor, h]
  cases e <;> rfl

end

/-! ## What becomes of the catalog -/

/-- What a builder registers in a catalog: its class, once the name is known. -/
def enrol (c : Catalog) (b : ClassBuilder) : Catalog × Option Nat :=
  match b.name? with
  | some name => ((c.register name).1, some (c.register name).2)
  | none => (c, none)

theorem enrol_congr {b b' : ClassBuilder} (h : b'.name? = b.name?) (c : Catalog) :
    enrol c b' = enrol c b := by
  rw [enrol, enrol, h]

/-- An event registers the class iff it makes its name known. -/
theorem afterEvent_enrol (c : Catalog) (b : ClassBuilder) (e : Event) :
    (enrol c b).1.afterEvent (enrol c b).2 e (b.visit e).2 = enrol c (b.visit e).1 := by
  by_cases he : ∃ h, e = .header h
  · obtain ⟨h, rfl⟩ := he
    rcases b.name?_visit_header h with ⟨sink, hr, hn, hn'⟩ | ⟨error, hr, hn⟩
    · rw [hr, enrol, enrol, hn, hn']
      rfl
    · rw [hr, enrol_congr hn]
      rfl
  · have hne : ∀ h, e ≠ .header h := fun h hh => he ⟨h, hh⟩
    rw [enrol_congr (ClassBuilder.name?_visit_of_ne hne)]
    cases e with
    | header h => exact absurd rfl (hne h)
    | _ => rfl

/-- A builder with its sink, and the construction that started with the catalog
    `c` and has come as far. -/
structure Enrolled (c : Catalog) (p : ClassBuilder × Sink) (k : Construction) : Prop where
  builder : k.builder = p.1
  sink : k.sink = p.2
  enrolled : (k.catalog, k.slot?) = enrol c p.1

theorem enrolled_start (c : Catalog) (s : Settings) :
    Enrolled c (.ofSettings s, .nowhere) (start c s) := ⟨rfl, rfl, rfl⟩

/-- A construction does what its builder would do by itself. -/
theorem simulates_visitor (c : Catalog) :
    ClassBuilder.visitor.Simulates visitor (Enrolled c) where
  visit {p k} e h := by
    obtain ⟨catalog, slot?, builder, sink⟩ := k
    obtain ⟨rfl, rfl, hc⟩ := h
    have hafter := afterEvent_enrol c p.1 e
    rw [← hc] at hafter
    rcases hv : p.1.visit e with ⟨b, error | sink⟩
    · rw [ClassBuilder.visitor_visit_error hv, visit_error hv]
      refine ⟨⟨rfl, rfl, ?_⟩, rfl⟩
      rw [hv] at hafter
      rw [← hafter]
      cases e <;> rfl
    · rw [ClassBuilder.visitor_visit_ok hv, visit_ok hv]
      refine ⟨⟨rfl, rfl, ?_⟩, rfl⟩
      rw [hafter, hv]
  element {p k} name value h := by
    obtain ⟨catalog, slot?, builder, sink⟩ := k
    obtain ⟨rfl, rfl, hc⟩ := h
    refine ⟨rfl, rfl, hc.trans (enrol_congr ?_ c).symm⟩
    exact congrArg (Option.map _) (ClassBuilder.identity?_record p.1 p.2 name value)

end Construction

/-! ## Reading -/

namespace ClassFile

/-- How the construction of a class ends: with the error of an event, with that of
    a failed lookup, or with the end of the build. -/
def conclude (n : Nat) : Construction × Except BuildError Unit → Except ReplayError Unit →
    Catalog × Except ReadError Entry
  | (k, .error error), _ => (k.catalog, .error (.build error))
  | (k, .ok ()), .error error => (k.catalog, .error (.ofReplay error))
  | (k, .ok ()), .ok () => ((k.finish n).1, (k.finish n).2.mapError .build)

/-- A file registers what its builder would. -/
theorem register_eq_enrol (b : ClassBuilder) (result : Except ReadError ClassModel) (c : Catalog) :
    Outcome.register ⟨b.name?, result⟩ c = Construction.enrol c b := by
  unfold Outcome.register Construction.enrol
  cases b.name? <;> rfl

/-- A file that was fed well is published as its construction is finished. -/
theorem publish_eq_finish (k : Construction) (n : Nat) (identity? : Option String) :
    Outcome.publish ⟨identity?, k.builder.build.mapError .build⟩ n k.slot? k.catalog =
      ((k.finish n).1, (k.finish n).2.mapError .build) := by
  rw [Outcome.publish, Construction.finish, Catalog.finish]
  cases k.builder.build with
  | error error => rfl
  | ok model =>
    simp only [Except.mapError, bind, Except.bind]
    cases k.catalog.publish k.slot? ⟨n, model⟩ <;> rfl

/-- **Reads.**  A class file is read by feeding its script to a new builder. -/
theorem read_of_decode {bytes : List UInt8} {f : File} (hf : decode bytes = .ok f) (s : Settings)
    (n : Nat) (c : Catalog) : read s n c bytes =
      conclude n (Construction.visitor.feed (.start c s) (scriptOf s f)) (endOf s f) := by
  have ho : outcomeOf s bytes = buildOf s f := by
    rw [outcomeOf, hf]
  have hfed := (Construction.simulates_visitor c).feed (scriptOf s f)
    (Construction.enrolled_start c s)
  rw [read, ho, buildOf, accept_eq_feed]
  generalize ClassBuilder.visitor.feed _ (scriptOf s f) = p at hfed
  generalize Construction.visitor.feed _ (scriptOf s f) = q at hfed
  obtain ⟨⟨b, sink⟩, r⟩ := p
  obtain ⟨k, r'⟩ := q
  obtain ⟨⟨hb, -, hc⟩, hr⟩ := hfed
  dsimp only at hb hc hr
  subst hr
  subst hb
  cases r' with
  | error error =>
    simp only [register_eq_enrol, ← hc]
    rfl
  | ok u =>
    simp only [register_eq_enrol, ← hc]
    cases endOf s f with
    | error error => rfl
    | ok u => exact publish_eq_finish k n k.builder.name?

/-- **Replays are faithful.**  Let `T` be what a class file gives to a visitor that
    refuses nothing.  Whatever the visitor, it is given `T` up to the first event
    that it refuses, and that refusal is the result; if it refuses nothing the
    delivery ends as it would for any such visitor.  So to read a file that can be
    decoded is to feed its script to a new builder. -/
theorem accept_faithful {σ : Type} (v : Visitor σ) (s : Settings) (f : File) (start : σ) :
    let T := scriptOf s f
    let given := accept v.logged s f (start, [])
    accept v s f start = (given.1, given.2.1) ∧
    (match v.feed start T with
      | (t, .ok ()) => given = (endOf s f, t, T)
      | (t, .error error) => ∃ before e after u, T = before ++ .event e :: after ∧
          v.feed start before = (u, .ok ()) ∧ v.visit u e = (t, .error error) ∧
          given = (.error (.build error), t, before ++ [.event e])) ∧
    ∀ n c bytes, read s n c bytes = match decode bytes with
      | .error fault => (c, .error (.malformed fault))
      | .ok f => conclude n (Construction.visitor.feed (.start c s) (scriptOf s f)) (endOf s f) := by
  intro T given
  have hgiven : given = _ := accept_eq_feed v.logged s f (start, [])
  have hlog := v.feed_logged start [] T
  have hread (n : Nat) (c : Catalog) (bytes : List UInt8) : read s n c bytes =
      match decode bytes with
      | .error fault => (c, .error (.malformed fault))
      | .ok f =>
        conclude n (Construction.visitor.feed (.start c s) (scriptOf s f)) (endOf s f) := by
    cases hd : decode bytes with
    | error fault => rw [read, outcomeOf, hd]; rfl
    | ok f => exact read_of_decode hd s n c
  rw [accept_eq_feed]
  rcases hv : v.feed start T with ⟨t, error | u⟩ <;> rw [hv] at hlog
  · obtain ⟨before, e, after, u, hT, hb, he, hl⟩ := hlog
    have hgiven : given = (.error (.build error), t, before ++ [.event e]) := by
      rw [hgiven, hl]
      rfl
    rw [hgiven]
    exact ⟨rfl, ⟨before, e, after, u, hT, hb, he, rfl⟩, hread⟩
  · have hgiven : given = (endOf s f, t, T) := by
      rw [hgiven, hlog]
      rfl
    rw [hgiven]
    exact ⟨rfl, rfl, hread⟩

end ClassFile

/-! ## Sessions -/

namespace Construction

/-- Element values are recorded in the annotation opened last. -/
theorem feed_elements (k : Construction) (values : List (String × ElementValue)) :
    visitor.feed k (values.map fun x => .element x.1 x.2) =
      ({ k with builder := k.builder.recordAll k.sink values }, .ok ()) := by
  induction values generalizing k with
  | nil => rfl
  | cons x values ih => exact ih _

end Construction

/-- A session delivers an event to a builder as it is fed to a construction. -/
theorem Session.deliver_eq_feed (s : Session) (id : String) (b : OpenBuilder) (e : Event)
    (values : List (String × ElementValue)) (sink : Sink) :
    ∃ sink', Construction.visitor.feed ⟨s.catalog b.catalog, b.slot?, b.builder, sink⟩
        (.event e :: values.map fun x => .element x.1 x.2) =
      (⟨(s.deliver id b e values).1.catalog b.catalog, (s.deliver id b e values).2.1.slot?,
        (s.deliver id b e values).2.1.builder, sink'⟩, (s.deliver id b e values).2.2) := by
  have hcat : (s.deliver id b e values).1.catalog b.catalog =
      ((s.catalog b.catalog).afterEvent b.slot? e (b.builder.visitWith e values).2).1 :=
    (catalog_setCatalog ..).trans (if_pos rfl)
  rw [hcat]
  unfold deliver
  rcases hv : b.builder.visit e with ⟨b', error | sink'⟩
  · refine ⟨.nowhere, (Visitor.feed_event_error (Construction.visit_error hv)).trans ?_⟩
    rw [ClassBuilder.visitWith_of_error hv]
    cases e <;> rfl
  · refine ⟨sink', (Visitor.feed_event_ok (Construction.visit_ok hv)).trans ?_⟩
    rw [Construction.feed_elements, ClassBuilder.visitWith_of_ok hv, hv]
    cases e <;> rfl

end ClassCatalog
