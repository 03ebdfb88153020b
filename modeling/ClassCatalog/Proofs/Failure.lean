/-
  Failures leave the catalogs intact.

  * `unresolved_iff`: a file has no header iff one of the names of the header cannot
    be looked up;
  * `read_of_error`: a read that fails leaves at most the pending slot that an
    accepted header has registered;
  * `Session.catalog_of_failed`: all else that fails leaves nothing;
  * `Session.failure_intact` puts these together, over all that a session can do.
-/
import ClassCatalog.Proofs.Construction
import ClassCatalog.Proofs.Publication

namespace ClassCatalog

/-! ## Headers that cannot be looked up -/

namespace ClassFile

section

variable {ε α β : Type}

/-- What comes next fails under a condition that does not depend on what came
    before. -/
theorem error_bind_iff {x : Except ε α} {k : α → Except ε β} {Q : Prop}
    (hk : ∀ a, (∃ e, k a = .error e) ↔ Q) :
    (∃ e, (x >>= k) = .error e) ↔ (∃ e, x = .error e) ∨ Q := by
  cases x with
  | error e => exact ⟨fun _ => Or.inl ⟨e, rfl⟩, fun _ => ⟨e, rfl⟩⟩
  | ok a =>
    refine (hk a).trans ⟨Or.inr, ?_⟩
    rintro (⟨e, he⟩ | hQ)
    · cases he
    · exact hQ

theorem error_mapM_iff {g : α → Except ε β} (l : List α) :
    (∃ e, l.mapM g = .error e) ↔ ∃ a ∈ l, ∃ e, g a = .error e := by
  induction l with
  | nil => simp [pure, Except.pure]
  | cons a l ih =>
    rw [List.mapM_cons, error_bind_iff fun b => error_bind_iff (Q := False) fun bs => by
      simp [pure, Except.pure], or_false, ih, List.exists_mem_cons_iff]

end

/-- One of the names of the header cannot be looked up: that of the super class, of
    an interface, of the class or of its signature. -/
def Unresolved (f : File) : Prop :=
  (f.superClass ≠ 0 ∧ ∃ e, f.pool.classText f.superClass = .error e) ∨
  (∃ i ∈ f.interfaces, ∃ e, f.pool.classText i = .error e) ∨
  (∃ e, f.pool.classText f.thisClass = .error e) ∨
  ∃ e, signature? f.pool f.attributes = .error e

theorem unresolved_iff (f : File) : (∃ e, headerOf f = .error e) ↔ Unresolved f := by
  have hsuper : (∃ e, superNameOf f = .error e) ↔
      f.superClass ≠ 0 ∧ ∃ e, f.pool.classText f.superClass = .error e := by
    unfold superNameOf
    split_ifs with h
    · simp [h, pure, Except.pure]
    · cases f.pool.classText f.superClass <;> simp [h, Functor.map, Except.map]
  have hlast (header : ClassHeader) :
      (∃ e, (pure header : Except ReplayError ClassHeader) = .error e) ↔ False := by
    simp [pure, Except.pure]
  rw [headerOf_eq, error_bind_iff fun _ => error_bind_iff fun _ => error_bind_iff fun _ =>
    error_bind_iff fun _ => hlast _]
  rw [or_false, hsuper, error_mapM_iff]
  rfl

/-! ## Reads that fail -/

/-- A class that is known by its name was registered by the header of the file. -/
theorem headerOf_of_name {s : Settings} {f : File} {name : String}
    (h : (ClassBuilder.visitor.feed (.ofSettings s, .nowhere) (scriptOf s f)).1.1.name? = some name) :
    ∃ header, headerOf f = .ok header ∧ header.name = name ∧
      ∃ sink, ((ClassBuilder.ofSettings s).visit (.header header)).2 = .ok sink := by
  cases hh : headerOf f with
  | error e =>
    rw [(scriptOf_of_error hh s).1] at h
    cases h
  | ok header =>
    obtain ⟨rest, hs⟩ := scriptOf_of_ok hh s
    rw [hs] at h
    rcases hv : (ClassBuilder.ofSettings s).visit (.header header) with ⟨b, error | sink⟩
    · have hp := ClassBuilder.visitor_visit_error (p := (.ofSettings s, .nowhere)) hv
      rw [Visitor.feed_event_error hp] at h
      rcases (ClassBuilder.ofSettings s).name?_visit_header header with
        ⟨sink, hok, -⟩ | ⟨-, -, hn⟩
      · rw [hv] at hok
        cases hok
      · rw [hv] at hn
        cases hn.symm.trans h
    · have hp := ClassBuilder.visitor_visit_ok (p := (.ofSettings s, .nowhere)) hv
      rw [Visitor.feed_event_ok hp] at h
      rcases (ClassBuilder.ofSettings s).name?_visit_header header with
        ⟨-, -, -, hn⟩ | ⟨error, herr, -⟩
      · rw [hv] at hn
        rw [ClassBuilder.name?_feed rest hn] at h
        exact ⟨header, rfl, Option.some.inj h, sink, by rw [hv]⟩
      · rw [hv] at herr
        cases herr

theorem read_of_malformed {bytes : List UInt8} {fault : Malformed}
    (h : decode bytes = .error fault) (s : Settings) (n : Nat) (c : Catalog) :
    read s n c bytes = (c, .error (.malformed fault)) := by
  rw [read, outcomeOf, h]
  rfl

theorem read_of_headerless {bytes : List UInt8} {f : File} {e : ReplayError}
    (hf : decode bytes = .ok f) (he : headerOf f = .error e) (s : Settings) (n : Nat) (c : Catalog) :
    read s n c bytes = (c, .error (.ofReplay e)) := by
  obtain ⟨hs, hr⟩ := scriptOf_of_error he s
  rw [read_of_decode hf, hs, hr]
  rfl

theorem conclude_of_error {n : Nat} {q : Construction × Except BuildError Unit}
    {r : Except ReplayError Unit} {e : ReadError} (h : (conclude n q r).2 = .error e) :
    (conclude n q r).1 = q.1.catalog := by
  rcases q with ⟨k, error | u⟩
  · rfl
  · cases r with
    | error error => rfl
    | ok u =>
      cases hf : (k.finish n).2 with
      | error error => exact Construction.finish_of_error hf
      | ok entry =>
        rw [conclude, hf] at h
        cases h

/-- **Failing reads.**  A read that fails leaves the catalog as it was, but for the
    pending slot that the header registered if it was accepted. -/
theorem read_of_error {s : Settings} {n : Nat} {c : Catalog} {bytes : List UInt8} {e : ReadError}
    (h : (read s n c bytes).2 = .error e) :
    (read s n c bytes).1 = c ∨ ∃ f header, decode bytes = .ok f ∧ headerOf f = .ok header ∧
      (∃ sink, ((ClassBuilder.ofSettings s).visit (.header header)).2 = .ok sink) ∧
      (read s n c bytes).1 = (c.register header.name).1 := by
  cases hf : decode bytes with
  | error fault =>
    refine Or.inl ?_
    rw [read_of_malformed hf]
  | ok f =>
    rw [read_of_decode hf] at h ⊢
    rw [conclude_of_error h]
    obtain ⟨⟨-, -, henrol⟩, -⟩ := (Construction.simulates_visitor c).feed (scriptOf s f)
      (Construction.enrolled_start c s)
    have hcat := congrArg Prod.fst henrol
    dsimp only at hcat
    rw [hcat, Construction.enrol]
    cases hn : (ClassBuilder.visitor.feed (.ofSettings s, .nowhere) (scriptOf s f)).1.1.name? with
    | none => exact Or.inl rfl
    | some name =>
      obtain ⟨header, hh, rfl, hok⟩ := headerOf_of_name hn
      exact Or.inr ⟨f, header, rfl, hh, hok, rfl⟩

end ClassFile

/-! ## What can be seen of a catalog -/

namespace Catalog

variable {c c' : Catalog} {es : List Entry} {k : Nat} {slot : Slot}

theorem built_register (c : Catalog) (a : String) : (c.register a).1.built = c.built := by
  cases ha : c.number? a with
  | some k => rw [register_of_number? ha]
  | none =>
    rw [register_of_number?_none ha, built, List.filterMap_append]
    simp [built, Slot.pending]

/-- A slot of a catalog that has grown is as it was, or is new and pending, or shows
    a class that was published. -/
theorem Grows.slotAt?_cases (h : c.Grows es c') (hc : c.Filed) (hs : c'.slotAt? k = some slot) :
    c.slotAt? k = some slot ∨ c.slotAt? k = none ∧ slot.published? = none ∨
      ∃ e ∈ es, slot.published? = some e := by
  have hfiled := h.filed hc
  have heq := hfiled.slotAt?_eq hs
  have hshown : slot.published? = c'.resolve? slot.qualifiedName := congrArg Slot.published? heq
  cases hr : c'.resolve? slot.qualifiedName with
  | none =>
    rw [hr] at hshown
    cases ho : c.slotAt? k with
    | none => exact Or.inr (Or.inl ⟨rfl, hshown⟩)
    | some old =>
      obtain ⟨slot', hs', hn⟩ := h.slot ho
      cases hs.symm.trans hs'
      refine Or.inl (congrArg some ?_)
      rw [hc.slotAt?_eq ho, heq, ← hn, hr, h.resolve_none hr]
  | some e =>
    rw [hr] at hshown
    rcases h.resolve.1 hr with he | ⟨he, -⟩
    · -- the class was there before, in the slot that its name still has
      cases hk : c.number? slot.qualifiedName with
      | none =>
        rw [resolve?_of_number?_none hk] at he
        cases he
      | some j =>
        have hj := h.number hk
        rw [hfiled.found hs] at hj
        cases hj
        refine Or.inl ((hc.slotAt?_of_number? hk).trans (congrArg some ?_))
        rw [heq, hr, he, hfiled.qualified hs]
    · exact Or.inr (Or.inr ⟨e, he, hshown⟩)

end Catalog

/-! ## Sessions -/

/-- The reply tells of an error: an event was refused, be it one of the annotations
    of a member, a build or a read failed. -/
def Reply.Failed : Reply → Prop
  | event r => ∃ e, r = .error e
  | member (.error _) => True
  | member (.ok rs) => ∃ e, .error e ∈ rs
  | finished r => ∃ e, r = .error e
  | read r => ∃ e, r = .error e
  | _ => False

namespace Session

variable {s : Session} {n : Nat} {id : String} {b : OpenBuilder}

theorem catalog_setCatalog_self (s : Session) (n m : Nat) :
    (s.setCatalog n (s.catalog n)).catalog m = s.catalog m := by
  rw [catalog_setCatalog]
  split_ifs with h
  · rw [h]
  · rfl

/-- Of all events only an accepted header touches a catalog. -/
theorem catalog_deliver {e : Event} {values : List (String × ElementValue)}
    (h : ∀ header, e = .header header → ∃ error, (s.deliver id b e values).2.2 = .error error)
    (m : Nat) : (s.deliver id b e values).1.catalog m = s.catalog m := by
  have hafter : (s.catalog b.catalog).afterEvent b.slot? e (s.deliver id b e values).2.2 =
      (s.catalog b.catalog, b.slot?) := by
    cases e with
    | header header =>
      obtain ⟨error, he⟩ := h header rfl
      rw [he]
      rfl
    | _ => rfl
  have hs : (s.deliver id b e values).1.catalogs = (s.setCatalog b.catalog
      ((s.catalog b.catalog).afterEvent b.slot? e (s.deliver id b e values).2.2).1).catalogs := rfl
  rw [catalog_congr hs, hafter, catalog_setCatalog_self]

theorem catalog_deliverAll {events : List (Event × List (String × ElementValue))}
    (h : ∀ e ∈ events, ∀ header, e.1 ≠ .header header) (m : Nat) :
    (s.deliverAll id b events).1.catalog m = s.catalog m := by
  induction events generalizing s b with
  | nil => rfl
  | cons e events ih =>
    refine (ih fun e' he' => h e' (List.mem_cons_of_mem _ he')).trans (catalog_deliver ?_ m)
    exact fun header hh => absurd hh (h e List.mem_cons_self header)

theorem catalog_deliverMember {e : Event} {annotations : List (Event × List (String × ElementValue))}
    (he : ∀ header, e ≠ .header header)
    (h : ∀ e ∈ annotations, ∀ header, e.1 ≠ .header header) (m : Nat) :
    (s.deliverMember id b e annotations).1.catalog m = s.catalog m := by
  have hd : (s.deliver id b e []).1.catalog m = s.catalog m :=
    catalog_deliver (fun header hh => absurd hh (he header)) m
  unfold deliverMember
  generalize s.deliver id b e [] = p at hd ⊢
  obtain ⟨s', b', error | u⟩ := p
  · exact hd
  · exact (catalog_deliverAll h m).trans hd

theorem fieldEvent_ne_header (a : AnnotationEvent) (header : ClassHeader) :
    (fieldEvent a).1 ≠ .header header :=
  nofun

theorem methodEvent_ne_header (a : MethodTarget × AnnotationEvent) (header : ClassHeader) :
    (methodEvent a).1 ≠ .header header := by
  rcases a with ⟨_ | _, _⟩ <;> exact nofun

theorem finish_of_error {e : BuildError} (h : (s.finish id b).2 = .error e) (m : Nat) :
    (s.finish id b).1.catalog m = s.catalog m := by
  unfold finish at h ⊢
  dsimp only at h ⊢
  cases hf : (s.catalog b.catalog).finish b.slot? s.nextSerial b.builder with
  | error error => rfl
  | ok p => rw [hf] at h; cases h

/-- What fails leaves the catalogs as they were, reads apart. -/
theorem catalog_of_failed {c : Command} (h : (s.perform n c).2.Failed)
    (hr : ∀ id bytes settings, c ≠ .read id bytes settings) (m : Nat) :
    (s.perform n c).1.catalog m = s.catalog m := by
  cases he : c.event? with
  | some e =>
    obtain ⟨id, hid⟩ := Command.builder?_of_event? he
    cases hb : s.builders.get? id with
    | none => rw [perform_event_of_none hid he hb]
    | some b =>
      cases c with
      | header id' header =>
        cases hid
        rw [perform, hb] at h ⊢
        exact catalog_deliver (fun _ _ => h) m
      | annotate id' a =>
        cases hid
        rw [perform, hb]
        exact catalog_deliver (fun header hh => by cases hh) m
      | field id' decl annotations =>
        cases hid
        rw [perform, hb]
        refine catalog_deliverMember (fun header hh => by cases hh) (fun e he => ?_) m
        obtain ⟨a, -, rfl⟩ := List.mem_map.1 he
        exact fieldEvent_ne_header a
      | method id' decl annotations =>
        cases hid
        rw [perform, hb]
        refine catalog_deliverMember (fun header hh => by cases hh) (fun e he => ?_) m
        obtain ⟨a, -, rfl⟩ := List.mem_map.1 he
        exact methodEvent_ne_header a
      | _ => cases he
  | none =>
    cases c with
    | header | annotate | field | method => cases he
    | read id bytes settings => exact absurd rfl (hr id bytes settings)
    | finish id =>
      rw [perform] at h ⊢
      cases hb : s.builders.get? id with
      | none => rfl
      | some b =>
        rw [hb] at h
        obtain ⟨e, he⟩ := h
        exact finish_of_error he m
    | register =>
      rw [perform] at h
      dsimp only at h
      split at h <;> exact h.elim
    | readAll => exact h.elim
    | _ => rfl

/-- What a request to read a class file answers and leaves of the catalogs. -/
theorem step_read (s : Session) (catalog id : String) (bytes : List UInt8) (settings : Settings) :
    let n := (s.openCatalog catalog).2
    let done := ClassFile.read settings s.nextSerial (s.catalog n) bytes
    (s.step ⟨catalog, .read id bytes settings⟩).2 = .read done.2 ∧
      ∀ m, (s.step ⟨catalog, .read id bytes settings⟩).1.catalog m =
        if m = n then done.1 else s.catalog m := by
  intro n done
  have hc : (s.openCatalog catalog).1.catalog = s.catalog :=
    funext (catalog_congr (catalogs_openCatalog s catalog))
  have hr := (s.openCatalog catalog).1.read_snd n id bytes settings
  obtain ⟨hf, -⟩ := (s.openCatalog catalog).1.read_fst n id bytes settings
  rw [hc, nextSerial_openCatalog] at hr hf
  refine ⟨congrArg Reply.read hr, fun m => (catalog_congr hf m).trans ?_⟩
  rw [catalog_setCatalog, hc]

theorem step_of_failed {r : Request} (h : (s.step r).2.Failed)
    (hr : ∀ id bytes settings, r.command ≠ .read id bytes settings) (m : Nat) :
    (s.step r).1.catalog m = s.catalog m :=
  (catalog_of_failed h hr m).trans (catalog_congr (catalogs_openCatalog s r.catalog) m)

open ClassFile (decode headerOf Unresolved)

/-- A request to read that fails leaves at most the slot of an accepted header. -/
theorem step_read_of_failed {catalog : String} {bytes : List UInt8} {settings : Settings}
    (h : (s.step ⟨catalog, .read id bytes settings⟩).2.Failed) :
    let n := (s.openCatalog catalog).2
    let s' := (s.step ⟨catalog, .read id bytes settings⟩).1
    (∀ m, s'.catalog m = s.catalog m) ∨
      ∃ f header, decode bytes = .ok f ∧ headerOf f = .ok header ∧
        (∃ sink, ((ClassBuilder.ofSettings settings).visit (.header header)).2 = .ok sink) ∧
        (∀ m, s'.catalog m =
          if m = n then ((s.catalog n).register header.name).1 else s.catalog m) := by
  intro n s'
  obtain ⟨hreply, hcat⟩ := s.step_read catalog id bytes settings
  rw [hreply] at h
  obtain ⟨e, he⟩ := h
  rcases ClassFile.read_of_error he with hc | ⟨f, header, hf, hh, hok, hc⟩
  · refine Or.inl fun m => (hcat m).trans ?_
    rw [hc]
    split_ifs with hm
    · rw [hm]
    · rfl
  · exact Or.inr ⟨f, header, hf, hh, hok, fun m => (hcat m).trans (by rw [hc])⟩

theorem step_read_of_unresolved {catalog : String} {bytes : List UInt8} (settings : Settings)
    (h : (∃ fault, decode bytes = .error fault) ∨ ∃ f, decode bytes = .ok f ∧ Unresolved f) :
    (s.step ⟨catalog, .read id bytes settings⟩).2.Failed ∧
      ∀ m, (s.step ⟨catalog, .read id bytes settings⟩).1.catalog m = s.catalog m := by
  obtain ⟨hreply, hcat⟩ := s.step_read catalog id bytes settings
  obtain ⟨e, he⟩ : ∃ e, ClassFile.read settings s.nextSerial
      (s.catalog (s.openCatalog catalog).2) bytes =
        (s.catalog (s.openCatalog catalog).2, .error e) := by
    rcases h with ⟨fault, hf⟩ | ⟨f, hf, hu⟩
    · exact ⟨_, ClassFile.read_of_malformed hf ..⟩
    · obtain ⟨e, he⟩ := (ClassFile.unresolved_iff f).2 hu
      exact ⟨_, ClassFile.read_of_headerless hf he ..⟩
  rw [he] at hreply hcat
  refine ⟨hreply ▸ ⟨e, rfl⟩, fun m => (hcat m).trans ?_⟩
  split_ifs with hm
  · rw [hm]
  · rfl

/-- What fails makes no class visible, and none invisible. -/
theorem visible_of_failed {r : Request} (h : (s.step r).2.Failed) (m : Nat) :
    (∀ a, ((s.step r).1.catalog m).resolve? a = (s.catalog m).resolve? a) ∧
      ((s.step r).1.catalog m).built = (s.catalog m).built := by
  by_cases hr : ∃ id bytes settings, r.command = .read id bytes settings
  · obtain ⟨id, bytes, settings, hr⟩ := hr
    obtain ⟨catalog, command⟩ := r
    cases hr
    rcases step_read_of_failed h with hc | ⟨f, header, -, -, -, hc⟩
    · rw [hc]
      exact ⟨fun _ => rfl, rfl⟩
    · rw [hc]
      split_ifs with hm
      · rw [hm]
        exact ⟨Catalog.resolve?_register _ _, Catalog.built_register _ _⟩
      · exact ⟨fun _ => rfl, rfl⟩
  · rw [step_of_failed h fun id bytes settings hc => hr ⟨id, bytes, settings, hc⟩]
    exact ⟨fun _ => rfl, rfl⟩

/-- **Failures.**  What fails leaves all catalogs as they were, but that a read whose
    header was accepted has left a pending slot for its class; and that only if
    the file can be decoded and the names of its header can be looked up.  So no
    failure makes a class visible: a slot shows what it did before, or is new and
    pending, unless the reply hands its class out. -/
theorem failure_intact (requests : List Request) (r : Request) :
    let s := after requests
    let n := (s.openCatalog r.catalog).2
    let s' := (s.step r).1
    let reply := (s.step r).2
    (reply.Failed → (∀ id bytes settings, r.command ≠ .read id bytes settings) →
      ∀ m, s'.catalog m = s.catalog m) ∧
    (∀ id bytes settings, r.command = .read id bytes settings →
      (reply.Failed → (∀ m, s'.catalog m = s.catalog m) ∨
        ∃ f header, decode bytes = .ok f ∧ headerOf f = .ok header ∧
          (∃ sink, ((ClassBuilder.ofSettings settings).visit (.header header)).2 = .ok sink) ∧
          (s.catalog n).number? header.name = none ∧
          (s'.catalog n).slots = (s.catalog n).slots ++ [.pending (Name.qualified header.name)] ∧
          ∀ m, m ≠ n → s'.catalog m = s.catalog m) ∧
      ((∃ fault, decode bytes = .error fault) ∨ (∃ f, decode bytes = .ok f ∧ Unresolved f) →
        reply.Failed ∧ ∀ m, s'.catalog m = s.catalog m)) ∧
    (reply.Failed → ∀ m, (∀ a, (s'.catalog m).resolve? a = (s.catalog m).resolve? a) ∧
      (s'.catalog m).built = (s.catalog m).built) ∧
    ∀ m k slot, (s'.catalog m).slotAt? k = some slot →
      (s.catalog m).slotAt? k = some slot ∨
      (s.catalog m).slotAt? k = none ∧ slot.published? = none ∨
      ∃ e ∈ reply.entries, slot.published? = some e := by
  intro s n s' reply
  have hs : s.Sound := sound_after requests
  refine ⟨step_of_failed, fun id bytes settings hr => ⟨fun h => ?_, fun h => ?_⟩,
    visible_of_failed, fun m k slot hk => ?_⟩
  · obtain ⟨catalog, command⟩ := r
    cases hr
    rcases step_read_of_failed h with hc | ⟨f, header, hf, hh, hok, hc⟩
    · exact Or.inl hc
    · cases ha : (s.catalog n).number? header.name with
      | some k =>
        -- the class has a slot already
        refine Or.inl fun m => (hc m).trans ?_
        split_ifs with hm
        · rw [hm, Catalog.register_of_number? ha]
        · rfl
      | none =>
        refine Or.inr ⟨f, header, hf, hh, hok, ha, ?_, fun m hm => (hc m).trans (if_neg hm)⟩
        rw [hc, if_pos rfl, Catalog.register_of_number?_none ha]
  · obtain ⟨catalog, command⟩ := r
    cases hr
    exact step_read_of_unresolved settings h
  · have hg := (step_advances hs r).grows m
    rcases hg.slotAt?_cases (hs.filed m) hk with h | h | ⟨e, he, hp⟩
    · exact Or.inl h
    · exact Or.inr (Or.inl h)
    · split_ifs at he
      · exact Or.inr (Or.inr ⟨e, he, hp⟩)
      · cases he

/-- The file of a class `a/B` with a field whose name is not in the pool. -/
def namelessField : List UInt8 :=
  [0xCA, 0xFE, 0xBA, 0xBE, 0, 0, 0, 52, 0, 4, 1, 0, 3, 97, 47, 66, 7, 0, 1, 1, 0, 1, 73,
    0, 33, 0, 2, 0, 0, 0, 0, 0, 1, 0, 0, 0, 9, 0, 3, 0, 0, 0, 0, 0, 0]

/-- The file of a class that is not in the pool. -/
def namelessClass : List UInt8 :=
  [0xCA, 0xFE, 0xBA, 0xBE, 0, 0, 0, 52, 0, 1, 0, 33, 0, 2, 0, 0, 0, 0, 0, 0, 0, 0, 0, 0]

set_option maxRecDepth 4000 in
theorem namelessClass_unresolved : ∃ f, decode namelessClass = .ok f ∧ Unresolved f :=
  ⟨_, rfl, Or.inr (Or.inr (Or.inl ⟨_, rfl⟩))⟩

/-- A second header and the end of the build that it spoils leave the catalog as it
    was; a file that fails after its header leaves a pending slot, and one that
    fails before it leaves nothing. -/
theorem failure_intact_nameless :
    let requests : List Request :=
      [⟨"c", .newBuilder "x" {}⟩, ⟨"c", .header "x" ⟨⟨0⟩, "a/A", none, none, []⟩⟩]
    let again : Request := ⟨"c", .header "x" ⟨⟨0⟩, "a/A", none, none, []⟩⟩
    let field : Request := ⟨"c", .read "y" namelessField {}⟩
    let header : Request := ⟨"c", .read "y" namelessClass {}⟩
    ((after requests).step again).1.catalog 0 = (after requests).catalog 0 ∧
      ((after (requests ++ [again])).step ⟨"c", .finish "x"⟩).1.catalog 0 =
        (after (requests ++ [again])).catalog 0 ∧
      (((after requests).step field).1.catalog 0).resolve? "a/B" = none ∧
      (((after requests).step field).1.catalog 0).size = 2 ∧
      ((after requests).step header).1.catalog 0 = (after requests).catalog 0 := by
  intro requests again field header
  obtain ⟨hagain, -⟩ := failure_intact requests again
  obtain ⟨hfinish, -⟩ := failure_intact (requests ++ [again]) ⟨"c", .finish "x"⟩
  obtain ⟨-, hfield, hvisible, -⟩ := failure_intact requests field
  obtain ⟨-, hheader, -⟩ := failure_intact requests header
  have hf : ((after requests).step field).2.Failed := ⟨_, rfl⟩
  refine ⟨hagain ⟨_, rfl⟩ nofun 0, hfinish ⟨_, rfl⟩ nofun 0, (hvisible hf 0).1 "a/B", ?_, ?_⟩
  · rcases (hfield "y" namelessField {} rfl).1 hf with h | ⟨f, h, hd, hh, -, hn, hs, -⟩
    · have hc := h 0
      cases congrArg (·.slots.length) hc
    · exact (congrArg List.length hs).trans rfl
  · exact ((hheader "y" namelessClass {} rfl).2 (Or.inr namelessClass_unresolved)).2 0

end Session

end ClassCatalog
