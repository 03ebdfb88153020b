/-
  Builders and the slots that they hold.

  * `ClassBuilder.Holds`: a builder that has its header holds the slot of its
    class, whatever else happens to the catalog;
  * `ClassBuilder.Finished` lists how the end of its build can come out.
-/
import ClassCatalog.Catalog
import ClassCatalog.Proofs.Builder
import ClassCatalog.Proofs.Growth

namespace ClassCatalog

/-- The catalog that an event leaves has one slot more at most. -/
theorem Catalog.Grows.afterEvent {α : Type} (c : Catalog) (slot? : Option Nat) (e : Event)
    (r : Except BuildError α) : c.Grows [] (c.afterEvent slot? e r).1 := by
  unfold Catalog.afterEvent
  split
  · exact .register c _
  · exact .refl c

namespace ClassBuilder

variable {b : ClassBuilder} {slot? : Option Nat} {c c' : Catalog} {es : List Entry}

/-- A builder that has its header holds the slot of its class. -/
def Holds (b : ClassBuilder) (slot? : Option Nat) (c : Catalog) : Prop :=
  ∀ i, b.state.identity? = some i → ∃ k, slot? = some k ∧ c.number? i.header.name = some k

theorem Holds.mono (h : b.Holds slot? c) (hg : c.Grows es c') : b.Holds slot? c' :=
  fun i hi => (h i hi).imp fun _ hk => ⟨hk.1, hg.number hk.2⟩

/-- The header of a class registers the slot that its builder holds from then
    on; no other event touches it. -/
theorem Holds.visitWith (h : b.Holds slot? c) (e : Event) (values : List (String × ElementValue)) :
    (b.visitWith e values).1.Holds (c.afterEvent slot? e (b.visitWith e values).2).2
      (c.afterEvent slot? e (b.visitWith e values).2).1 := by
  intro i hi
  by_cases he : ∃ header, e = .header header
  · obtain ⟨header, rfl⟩ := he
    rcases b.identity?_visitWith_header header values with ⟨hr, j, hj, hh⟩ | ⟨⟨err, hr⟩, hj⟩
    · cases hj.symm.trans hi
      rw [hr, hh]
      exact ⟨_, rfl, Catalog.number?_register_self ..⟩
    · rw [hr]
      exact h i (hj.symm.trans hi)
  · have hne : ∀ header, e ≠ .header header := fun header h => he ⟨header, h⟩
    have ha : c.afterEvent slot? e (b.visitWith e values).2 = (c, slot?) := by
      unfold Catalog.afterEvent
      split
      · exact absurd rfl (hne _)
      · rfl
    rw [ha]
    exact h i ((identity?_visitWith_of_ne hne).symm.trans hi)

/-- How the end of a build comes out: it failed, its class is new, or its name
    is taken. -/
inductive Finished (b : ClassBuilder) (n : Nat) (c : Catalog) :
    Except BuildError (Catalog × Entry) → Prop
  | failed {e : BuildError} : b.build = .error e → Finished b n c (.error e)
  | new {model : ClassModel} {c' : Catalog} : b.build = .ok model →
      c.resolve? model.qualifiedName = none → c.Grows [⟨n, model⟩] c' →
      Finished b n c (.ok (c', ⟨n, model⟩))
  | late {model : ClassModel} {d : Entry} : b.build = .ok model →
      c.resolve? model.qualifiedName = some d →
      Finished b n c (.error (.alreadyBuilt model.qualifiedName))

theorem Holds.finish (h : b.Holds slot? c) (n : Nat) : b.Finished n c (c.finish slot? n b) := by
  unfold Catalog.finish
  cases hb : b.build with
  | error e => exact .failed hb
  | ok model =>
    obtain ⟨i, hi, -, hq⟩ := build_ok hb
    obtain ⟨k, rfl, hk⟩ := h i hi
    rw [i.named] at hq
    have hr : c.resolve? model.qualifiedName = c.resolve? i.header.name :=
      Catalog.resolve?_congr (by rw [hq, Name.qualified_qualified])
    rcases Catalog.publish_cases (e := ⟨n, model⟩) hk hq with ⟨hn, hp, hg⟩ | ⟨⟨d, hd⟩, hp⟩
    · simp only [hp, bind, Except.bind]
      exact .new hb (hr.trans hn) hg
    · simp only [hp, bind, Except.bind]
      exact .late hb (hr.trans hd)

end ClassBuilder

end ClassCatalog
