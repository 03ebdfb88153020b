/-
  A read of a class file: what the file alone decides, and what is left to the
  catalog.

  * `Outcome.Holds` says that a read holds the slot of its class;
  * `Outcome.Published` lists how the last step of such a read can end;
  * `read_alone`: in an empty catalog the file alone decides.
-/
import ClassCatalog.ClassFile.Read
import ClassCatalog.Proofs.Builder
import ClassCatalog.Proofs.Growth

namespace ClassCatalog.ClassFile

variable {o : Outcome} {c c' : Catalog} {slot? : Option Nat} {n : Nat} {es : List Entry}

/-! ## What the file decides -/

/-- A class that a file builds was registered under its own name. -/
def Outcome.Named (o : Outcome) : Prop :=
  ∀ model, o.result = .ok model →
    ∃ name, o.identity? = some name ∧ model.qualifiedName = Name.qualified name

theorem buildOf_named (s : Settings) (f : File) : (buildOf s f).Named := by
  intro model h
  unfold buildOf at h ⊢
  generalize accept ClassBuilder.visitor s f (.ofSettings s, .nowhere) = p at h ⊢
  obtain ⟨r, b, sink⟩ := p
  cases r <;> cases hb : b.build <;>
    simp only [hb, Except.mapError, bind, Except.bind, reduceCtorEq, Except.ok.injEq] at h
  subst h
  exact ClassBuilder.build_qualifiedName hb

theorem outcomeOf_named (s : Settings) (bytes : List UInt8) : (outcomeOf s bytes).Named := by
  unfold outcomeOf
  cases decode bytes with
  | error fault => exact nofun
  | ok f => exact buildOf_named s f

/-- A class that a file builds is built by a visitor to which the file was delivered. -/
theorem exists_build_of_result {s : Settings} {bytes : List UInt8} {model : ClassModel}
    (h : (outcomeOf s bytes).result = .ok model) : ∃ f b sink, decode bytes = .ok f ∧
      accept ClassBuilder.visitor s f (.ofSettings s, .nowhere) = (.ok (), (b, sink)) ∧
      b.build = .ok model := by
  unfold outcomeOf at h
  cases hf : decode bytes with
  | error fault =>
    rw [hf] at h
    cases h
  | ok f =>
    rw [hf] at h
    dsimp only [buildOf] at h
    rcases haccept : accept ClassBuilder.visitor s f (.ofSettings s, .nowhere) with
      ⟨error | u, b, sink⟩ <;> rw [haccept] at h
    · cases h
    · cases hb : b.build with
      | error error =>
        rw [hb] at h
        cases h
      | ok model' =>
        rw [hb] at h
        cases h
        exact ⟨f, b, sink, rfl, haccept, hb⟩

/-! ## Registering -/

/-- The read of an outcome holds the slot that its header registered. -/
def Outcome.Holds (o : Outcome) (slot? : Option Nat) (c : Catalog) : Prop :=
  ∀ name, o.identity? = some name → ∃ k, slot? = some k ∧ c.number? name = some k

theorem Outcome.Holds.mono (h : o.Holds slot? c) (hg : c.Grows es c') : o.Holds slot? c' :=
  fun name hn => (h name hn).imp fun _ hk => ⟨hk.1, hg.number hk.2⟩

theorem Outcome.register_holds (o : Outcome) (c : Catalog) :
    o.Holds (o.register c).2 (o.register c).1 := by
  intro name hn
  rw [register, hn]
  exact ⟨_, rfl, Catalog.number?_register_self c name⟩

theorem Outcome.register_grows (o : Outcome) (c : Catalog) : c.Grows [] (o.register c).1 := by
  unfold register
  split
  · exact .register c _
  · exact .refl c

theorem Outcome.contains_register (o : Outcome) (c : Catalog) (a : String) :
    (o.register c).1.contains a ↔
      c.contains a ∨ ∃ name, o.identity? = some name ∧ Name.qualified a = Name.qualified name := by
  unfold register
  split
  · rename_i name hn
    rw [Catalog.contains_register, hn]
    simp
  · rename_i hn
    simp [hn]

/-! ## Publishing -/

/-- How the publication of an outcome ends: the file failed, its class is new,
    or its name is taken. -/
inductive Outcome.Published (o : Outcome) (n : Nat) (c : Catalog) :
    Catalog × Except ReadError Entry → Prop
  | failed {e : ReadError} : o.result = .error e → Published o n c (c, .error e)
  | new {model : ClassModel} {c' : Catalog} : o.result = .ok model →
      c.resolve? model.qualifiedName = none → c.Grows [⟨n, model⟩] c' →
      (∀ a, c'.contains a = c.contains a) → Published o n c (c', .ok ⟨n, model⟩)
  | late {model : ClassModel} {d : Entry} : o.result = .ok model →
      c.resolve? model.qualifiedName = some d →
      Published o n c (c, .error (.build (.alreadyBuilt model.qualifiedName)))

theorem Outcome.publish_cases (ho : o.Named) (hs : o.Holds slot? c) (n : Nat) :
    o.Published n c (o.publish n slot? c) := by
  unfold publish
  cases hr : o.result with
  | error e => exact .failed hr
  | ok model =>
    obtain ⟨name, hi, hq⟩ := ho model hr
    obtain ⟨k, rfl, hk⟩ := hs name hi
    have hc : c.resolve? model.qualifiedName = c.resolve? name :=
      Catalog.resolve?_congr (by rw [hq, Name.qualified_qualified])
    rcases Catalog.publish_cases (e := ⟨n, model⟩) hk hq with ⟨hn, hp, hg⟩ | ⟨⟨d, hd⟩, hp⟩
    · simp only [hp]
      exact .new hr (hc.trans hn) hg fun a => Catalog.contains_fill c k _ a
    · simp only [hp]
      exact .late hr (hc.trans hd)

/-- The classes that a result publishes. -/
def published (r : Except ReadError Entry) : List Entry := r.toOption.toList

theorem Outcome.Published.grows {p : Catalog × Except ReadError Entry} (h : o.Published n c p) :
    c.Grows (published p.2) p.1 := by
  cases h with
  | failed => exact .refl c
  | new _ _ hg => exact hg
  | late => exact .refl c

theorem Outcome.Published.serial {p : Catalog × Except ReadError Entry} (h : o.Published n c p) :
    ∀ e ∈ published p.2, e.serial = n := by
  cases h with
  | failed => exact nofun
  | new =>
    intro e he
    rw [List.mem_singleton.1 he]
  | late => exact nofun

theorem Outcome.Published.contains {p : Catalog × Except ReadError Entry}
    (h : o.Published n c p) (a : String) : p.1.contains a = c.contains a := by
  cases h with
  | failed => rfl
  | new _ _ _ hc => exact hc a
  | late => rfl

/-! ## Reading -/

/-- A read publishes the class that it returns, and nothing if it fails. -/
theorem read_grows (s : Settings) (n : Nat) (c : Catalog) (bytes : List UInt8) :
    c.Grows (published (read s n c bytes).2) (read s n c bytes).1 :=
  ((outcomeOf s bytes).register_grows c).trans
    (Outcome.publish_cases (outcomeOf_named s bytes) (Outcome.register_holds _ c) n).grows

/-- A class that is read is built from its file. -/
theorem result_of_read {s : Settings} {bytes : List UInt8} {e : Entry}
    (h : (read s n c bytes).2 = .ok e) : (outcomeOf s bytes).result = .ok e.model := by
  have hp := Outcome.publish_cases (outcomeOf_named s bytes) (Outcome.register_holds _ c) n
  unfold read at h
  dsimp only at h
  generalize (outcomeOf s bytes).publish n _ _ = p at h hp
  cases hp with
  | failed => cases h
  | new hr =>
    cases h
    exact hr
  | late => cases h

theorem read_serial (s : Settings) (n : Nat) (c : Catalog) (bytes : List UInt8) :
    ∀ e ∈ published (read s n c bytes).2, e.serial = n :=
  (Outcome.publish_cases (outcomeOf_named s bytes) (Outcome.register_holds _ c) n).serial

/-- **A lone read.**  In an empty catalog the file decides the result. -/
theorem read_alone (s : Settings) (bytes : List UInt8) :
    (read s n .empty bytes).2 = (outcomeOf s bytes).result.map (⟨n, ·⟩) := by
  have hg := (outcomeOf s bytes).register_grows .empty
  have h := Outcome.publish_cases (outcomeOf_named s bytes) (Outcome.register_holds _ .empty) n
  unfold read
  dsimp only
  generalize (outcomeOf s bytes).publish n _ _ = p at h
  cases h with
  | failed hr => rw [hr]; rfl
  | new hr => rw [hr]; rfl
  | late hr hd =>
    rw [hg.resolve] at hd
    simp at hd

end ClassCatalog.ClassFile
