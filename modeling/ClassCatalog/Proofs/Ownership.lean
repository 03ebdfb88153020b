/-
  Names, slots and owners in every catalog that a session can reach.

  * `Session.Coherent`: every builder of a session is coherent.  Each command keeps
    that, and each class that it hands out is coherent as well;
  * `references_coherent`: so the name of a slot, the names in its class and the
    owners of the members all speak of that class, and go on doing so.
-/
import ClassCatalog.Proofs.Coherence
import ClassCatalog.Proofs.Publication

namespace ClassCatalog

open ClassFile (published)

/-! ## Catalogs -/

namespace Catalog

variable {c : Catalog}

/-- Two registrations give one slot iff they are of one name. -/
theorem register_register (c : Catalog) (a b : String) :
    ((c.register a).1.register b).2 = (c.register a).2 ↔ Name.qualified b = Name.qualified a := by
  have ha := number?_register_self c a
  constructor
  · intro h
    have ha' := (Grows.register (c.register a).1 b).number ha
    have hb := number?_register_self (c.register a).1 b
    rw [← h] at ha'
    exact qualified_eq_of_number? hb ha'
  · intro h
    rw [← number?_congr h] at ha
    rw [register_of_number? ha]

/-- Who shares the slot of a name has a form of that name. -/
theorem number?_iff {a b : String} {k : Nat} (h : c.number? a = some k) :
    c.number? b = some k ↔ Name.qualified b = Name.qualified a :=
  ⟨fun hb => qualified_eq_of_number? hb h, fun hq => (number?_congr hq).trans h⟩

end Catalog

/-! ## Reads -/

namespace ClassFile

variable {s : Settings} {n : Nat} {c : Catalog} {e : Entry}

theorem coherent_read {bytes : List UInt8} (he : e ∈ published (read s n c bytes).2) :
    e.model.Coherent := by
  have hp := Outcome.publish_cases (outcomeOf_named s bytes) (Outcome.register_holds _ c) n
  unfold read at he
  dsimp only at he
  generalize (outcomeOf s bytes).publish n _ _ = p at hp he
  cases hp with
  | failed | late => cases he
  | new hr =>
    cases List.mem_singleton.1 he
    exact coherent_outcomeOf hr

theorem coherent_readAll {files : List (List UInt8)} {schedule : List Nat}
    (he : e ∈ (readAll s n c files schedule).2.flatMap published) : e.model.Coherent := by
  obtain ⟨r, hr, he⟩ := List.mem_flatMap.1 he
  obtain ⟨i, hi⟩ := List.mem_iff_getElem?.1 hr
  cases r with
  | error => cases he
  | ok d =>
    cases List.mem_singleton.1 he
    obtain ⟨bytes, -, hm, -⟩ := readAll_ok hi
    exact coherent_outcomeOf hm

end ClassFile

/-! ## Sessions -/

namespace Session

variable {s : Session} {n : Nat} {c : Command} {e : Entry}

/-- The builders of a session are coherent. -/
def Coherent (s : Session) : Prop :=
  ∀ id b, s.builders.get? id = some b → b.builder.Coherent

theorem coherent_empty : Coherent {} := by
  intro id b hb
  cases hb

/-- A command leaves the builder that it addresses coherent, and no other is touched. -/
theorem Coherent.perform (hs : s.Coherent) (n : Nat) (c : Command) :
    (s.perform n c).1.Coherent := by
  intro id b hb
  by_cases hid : c.builder? = some id
  · cases he : c.event? with
    | some e =>
      cases hold : s.builders.get? id with
      | none =>
        rw [perform_event_of_none hid he hold] at hb
        exact hs id b hb
      | some b₀ =>
        obtain ⟨-, b', hd, hb'⟩ := perform_event hid he hold n
        rw [hd.get?, if_pos rfl] at hb
        cases hb
        exact hb' ▸ (hs id b₀ hold).feed e
    | none =>
      cases c with
      | header | annotate | field | method => cases he
      | newBuilder id' settings =>
        cases hid
        rw [Session.perform, Table.get?_put_self] at hb
        cases hb
        exact ClassBuilder.coherent_ofSettings settings
      | dropBuilder id' =>
        cases hid
        rw [Session.perform, Table.get?_erase_self] at hb
        cases hb
      | finish id' =>
        cases hid
        rw [Session.perform] at hb
        split at hb
        · exact hs id b hb
        · dsimp only at hb
          rw [builders_finish, Table.get?_erase_self] at hb
          cases hb
      | builderState => exact hs id b hb
      | _ => cases hid
  · rw [perform_builder_of_ne hid] at hb
    exact hs id b hb

/-- The classes that a command hands out are coherent. -/
theorem Coherent.entries (hs : s.Coherent) (hsound : s.Sound)
    (he : e ∈ (s.perform n c).2.entries) : e.model.Coherent := by
  by_cases hp : c.publishes = true
  · cases c with
    | finish id =>
      rw [Session.perform] at he
      cases hb : s.builders.get? id with
      | none => rw [hb] at he; cases he
      | some b =>
        obtain ⟨r, hf, hr, -⟩ := finish_finished (hsound.builders hb) id
        rw [hb] at he
        change e ∈ (s.finish id b).2.toOption.toList at he
        rw [hr] at he
        cases hf with
        | failed | late => cases he
        | new hm =>
          cases List.mem_singleton.1 he
          exact (hs id b hb).build hm
    | read id bytes settings =>
      change e ∈ published (s.read n id bytes settings).2 at he
      rw [read_snd] at he
      exact ClassFile.coherent_read he
    | readAll files settings schedule => exact ClassFile.coherent_readAll he
    | _ => cases hp
  · rw [entries_perform (Bool.eq_false_iff.2 hp)] at he
    cases he

theorem Coherent.openCatalog (hs : s.Coherent) (name : String) :
    (s.openCatalog name).1.Coherent := by
  intro id b hb
  rw [builders_openCatalog] at hb
  exact hs id b hb

/-- **Runs.**  Whatever is handed out of a catalog is coherent. -/
theorem Coherent.publishedIn (hs : s.Coherent) (hsound : s.Sound) {requests : List Request}
    (he : e ∈ s.publishedIn n requests) : e.model.Coherent := by
  induction requests generalizing s with
  | nil => cases he
  | cons r requests ih =>
    have hopen := hs.openCatalog r.catalog
    rcases List.mem_append.1 he with he | he
    · split_ifs at he
      · exact hopen.entries (hsound.openCatalog r.catalog) he
      · cases he
    · exact ih (hopen.perform _ r.command) (step_advances hsound r).sound he

variable {requests : List Request} {k : Nat} {slot : Slot}

/-- The class in a slot was handed out, and its internal name resolves to it. -/
theorem resolve?_of_slotAt? (h : ((after requests).catalog n).slotAt? k = some slot)
    (he : slot.published? = some e) :
    e ∈ publishedBy n requests ∧ e.model.Coherent ∧
      ((after requests).catalog n).resolve? e.model.name = some e := by
  have hf := (sound_after requests).filed n
  have hr : ((after requests).catalog n).resolve? slot.qualifiedName = some e := by
    rw [hf.slotAt?_eq h] at he
    exact he
  have hmem := (resolve?_after.1 hr).1
  have hc := coherent_empty.publishedIn sound_empty hmem
  exact ⟨hmem, hc, resolve?_after.2 ⟨hmem, hc.qualified⟩⟩

/-- **Names, slots and owners.**  In every catalog that a session can reach, each slot is
    found under its own name, which is in qualified form.  A class in it bears that name,
    which is the qualified form of its internal name and is made of its package and its
    nested name.  The members of the class name it as their owner, and that owner resolves
    to this very class, now and after any further requests; the qualified names of the
    methods start with that of the class, and its constructors are methods of it.  Two
    identities address one slot iff their qualified forms agree. -/
theorem references_coherent (n : Nat) (requests requests' : List Request) :
    let now := (after requests).catalog n
    let later := (after (requests ++ requests')).catalog n
    (∀ k slot, now.slotAt? k = some slot →
      now.number? slot.qualifiedName = some k ∧ '/' ∉ slot.qualifiedName.toList) ∧
    (∀ k slot e, now.slotAt? k = some slot → slot.published? = some e →
      e.model.qualifiedName = slot.qualifiedName ∧
      e.model.qualifiedName = Name.qualified e.model.name ∧
      Name.Parts e.model.qualifiedName e.model.packageName e.model.nestedName ∧
      (∀ f ∈ e.model.fields, f.owner = e.model.name ∧
        now.resolve? f.owner = some e ∧ later.resolve? f.owner = some e) ∧
      (∀ m ∈ e.model.methods, m.owner = e.model.name ∧
        now.resolve? m.owner = some e ∧ later.resolve? m.owner = some e ∧
        m.qualifiedName = e.model.qualifiedName ++ "." ++ m.decl.name) ∧
      ∀ i ∈ e.model.constructorPositions,
        ∃ m, e.model.methods[i]? = some m ∧ m.isConstructor = true) ∧
    (∀ a b, Name.qualified b = Name.qualified a → now.number? b = now.number? a) ∧
    (∀ a b k, now.number? a = some k →
      (now.number? b = some k ↔ Name.qualified b = Name.qualified a)) ∧
    ∀ a b, ((now.register a).1.register b).2 = (now.register a).2 ↔
      Name.qualified b = Name.qualified a := by
  have hf := (sound_after requests).filed n
  refine ⟨fun k slot hk => ⟨hf.found hk, ?_⟩, fun k slot e hk he => ?_,
    fun a b => Catalog.number?_congr, fun a b k => Catalog.number?_iff,
    Catalog.register_register _⟩
  · rw [← hf.qualified hk]
    exact Name.slash_not_mem_qualified _
  · obtain ⟨-, hc, hnow⟩ := resolve?_of_slotAt? hk he
    have hlater := (grows_append n requests requests').resolve_some hnow
    refine ⟨hf.named hk he, hc.qualified, hc.parts, fun f hm => ?_, fun m hm => ?_, fun i hi => ?_⟩
    · rw [hc.fields f hm]
      exact ⟨rfl, hnow, hlater⟩
    · rw [MethodModel.qualifiedName, hc.methods m hm, ← hc.qualified]
      exact ⟨rfl, hnow, hlater, rfl⟩
    · rw [hc.positions] at hi
      obtain ⟨d, hd, hctor⟩ := mem_constructorsAt.1 hi
      rw [List.getElem?_map] at hd
      obtain ⟨m, hm, rfl⟩ := Option.map_eq_some_iff.1 hd
      exact ⟨m, hm, hctor⟩

end Session

end ClassCatalog
