/-
  Steps and runs of a session.

  * `step_advances`: a request does no more than to let one catalog grow by the
    classes that its reply hands out;
  * `run_grows`: so a run lets a catalog grow by what its replies handed out;
  * `step_builder_of_ne`: a builder is touched by nothing but the commands that
    address it.
-/
import ClassCatalog.Proofs.Events
import ClassCatalog.Proofs.Schedule

namespace ClassCatalog

open ClassFile (published)

/-- A command that can hand out a class. -/
def Command.publishes : Command → Bool
  | finish _ | read .. | readAll .. => true
  | _ => false

theorem Command.builder?_of_event? {c : Command} {e : ClassEvent} (h : c.event? = some e) :
    ∃ id, c.builder? = some id := by
  cases c <;> cases h <;> exact ⟨_, rfl⟩

theorem Command.publishes_of_event? {c : Command} {e : ClassEvent} (h : c.event? = some e) :
    c.publishes = false := by
  cases c <;> cases h <;> rfl

@[simp] theorem ClassBuilder.entries_feed (b : ClassBuilder) (e : ClassEvent) :
    (b.feed e).2.entries = [] := by
  cases e <;> rfl

namespace Session

variable {s s' : Session} {n m : Nat} {id : String} {b : OpenBuilder} {c : Command}
  {e : ClassEvent}

/-! ## Single requests -/

theorem perform_event_of_none (hid : c.builder? = some id) (he : c.event? = some e)
    (hb : s.builders.get? id = none) (n : Nat) : s.perform n c = (s, .unknown) := by
  cases c <;> cases he <;> cases hid <;> rw [perform, hb]

theorem builders_finish (s : Session) (id : String) (b : OpenBuilder) :
    (s.finish id b).1.builders = s.builders.erase id := by
  unfold finish
  dsimp only
  split <;> rfl

/-- The end of a build: the result, and what it leaves of the session. -/
theorem finish_finished (hh : s.Holding b) (id : String) :
    ∃ r, b.builder.Finished s.nextSerial (s.catalog b.catalog) r ∧
      (s.finish id b).2 = r.map (·.2) ∧
      s.Grows b.catalog (s.finish id b).2.toOption.toList (s.finish id b).1 ∧
      (s.finish id b).1.slots = s.slots ∧
      (s.finish id b).1.nextSerial = s.nextSerial + 1 := by
  have hf := ClassBuilder.Holds.finish hh s.nextSerial
  refine ⟨_, hf, ?_⟩
  unfold finish
  generalize (s.catalog b.catalog).finish b.slot? s.nextSerial b.builder = r at hf
  cases hf with
  | failed => exact ⟨rfl, .of_catalogs _ rfl, rfl, rfl⟩
  | new _ _ hg => exact ⟨rfl, .setCatalog hg, rfl, rfl⟩
  | late => exact ⟨rfl, .of_catalogs _ rfl, rfl, rfl⟩

theorem finish_advances (hs : s.Sound) (hb : s.builders.get? id = some b) :
    s.Advances b.catalog (s.finish id b).2.toOption.toList (s.finish id b).1 := by
  obtain ⟨r, hf, hr, hg, hsl, hn⟩ := finish_finished (hs.builders hb) id
  refine ⟨hs.mono hg (fun {k b'} hk => Or.inl ?_) fun h => Or.inl (hsl ▸ h), hg, by omega, ?_, ?_⟩
  · rw [builders_finish, Table.get?_erase] at hk
    split_ifs at hk
    exact hk
  · rw [hr, hn]
    cases hf with
    | new =>
      intro e he
      cases List.mem_singleton.1 he
      exact ⟨le_rfl, Nat.lt_succ_self _⟩
    | failed | late =>
      intro e he
      cases he
  · rw [hr]
    cases hf with
    | new => exact List.pairwise_singleton _ _
    | failed | late => exact .nil

theorem read_snd (s : Session) (n : Nat) (id : String) (bytes : List UInt8) (settings : Settings) :
    (s.read n id bytes settings).2 =
      (ClassFile.read settings s.nextSerial (s.catalog n) bytes).2 := by
  unfold read
  dsimp only
  split <;> rename_i h <;> exact h.symm

/-- What a read leaves of the session. -/
theorem read_fst (s : Session) (n : Nat) (id : String) (bytes : List UInt8) (settings : Settings) :
    let s' := (s.read n id bytes settings).1
    s'.catalogs =
        (s.setCatalog n (ClassFile.read settings s.nextSerial (s.catalog n) bytes).1).catalogs ∧
      s'.builders = s.builders ∧ s'.slots = s.slots ∧ s'.nextSerial = s.nextSerial + 1 := by
  unfold read
  dsimp only
  split <;> exact ⟨rfl, rfl, rfl, rfl⟩

theorem read_advances (hs : s.Sound) (n : Nat) (id : String) (bytes : List UInt8)
    (settings : Settings) :
    s.Advances n (published (s.read n id bytes settings).2) (s.read n id bytes settings).1 := by
  have hg := ClassFile.read_grows settings s.nextSerial (s.catalog n) bytes
  have hn := ClassFile.read_serial settings s.nextSerial (s.catalog n) bytes
  obtain ⟨hc, hb, hsl, hl⟩ := s.read_fst n id bytes settings
  rw [read_snd]
  refine .of_setCatalog hs hg hc hb hsl (by omega) (fun e he => ?_) ?_
  · rw [hn e he, hl]
    omega
  · unfold published
    cases (ClassFile.read settings s.nextSerial (s.catalog n) bytes).2 with
    | error => exact .nil
    | ok => exact List.pairwise_singleton _ _

theorem readAll_advances (hs : s.Sound) (n : Nat) (files : List (List UInt8))
    (settings : Settings) (schedule : List Nat) :
    s.Advances n ((s.readAll n files settings schedule).2.flatMap published)
      (s.readAll n files settings schedule).1 := by
  refine .of_setCatalog hs (ClassFile.readAll_grows settings s.nextSerial (s.catalog n) files
    schedule) rfl rfl rfl (Nat.le_add_right ..) (fun e he => ?_) ?_
  · exact ClassFile.readAll_serial he
  · exact ClassFile.readAll_ordered ..

/-- Only the commands that can publish hand out classes. -/
theorem entries_perform (hp : c.publishes = false) : (s.perform n c).2.entries = [] := by
  cases he : c.event? with
  | some e =>
    obtain ⟨id, hid⟩ := Command.builder?_of_event? he
    cases hb : s.builders.get? id with
    | none => rw [perform_event_of_none hid he hb]; rfl
    | some b => rw [(perform_event hid he hb n).1, ClassBuilder.entries_feed]
  | none =>
    cases c with
    | header | annotate | field | method => cases he
    | finish | read | readAll => cases hp
    | register | keptSlot | builderState | isPublished | declaringClass | isAnnotated | view =>
      rw [perform]
      dsimp only
      split <;> rfl
    | _ => rfl

theorem register_advances (hs : s.Sound) (n : Nat) (identity id : String) :
    s.Advances n [] (s.perform n (.register identity id)).1 := by
  have hg : (s.catalog n).Grows [] ((s.catalog n).register identity).1 := .register ..
  refine .of_grows hs (.of_setCatalog hg rfl) rfl Or.inl fun {k ref} hk => ?_
  rw [show (s.perform n (.register identity id)).1.slots =
    s.slots.put id ⟨n, ((s.catalog n).register identity).2⟩ from rfl, Table.get?_put] at hk
  split_ifs at hk
  · cases hk
    obtain ⟨p?, hp⟩ := Catalog.slotAt?_of_number? (Catalog.number?_register_self (s.catalog n)
      identity)
    refine Or.inr ⟨⟨Name.qualified identity, p?⟩, ?_⟩
    rw [slotNow, show (s.perform n (.register identity id)).1.catalog n =
      ((s.catalog n).register identity).1 from (catalog_setCatalog ..).trans (if_pos rfl)]
    exact hp
  · exact Or.inl hk

/-- The number of the catalog in which the class of a command is published. -/
def home (s : Session) (n : Nat) : Command → Nat
  | .finish id => ((s.builders.get? id).map (·.catalog)).getD n
  | _ => n

/-- **Steps.**  A command does no more than to let one catalog grow by the
    classes of its reply. -/
theorem perform_advances (hs : s.Sound) (n : Nat) (c : Command) :
    s.Advances (s.home n c) (s.perform n c).2.entries (s.perform n c).1 := by
  cases he : c.event? with
  | some e =>
    obtain ⟨id, hid⟩ := Command.builder?_of_event? he
    have hh : s.home n c = n := by cases c <;> first | rfl | cases he
    rw [hh, entries_perform (Command.publishes_of_event? he)]
    cases hb : s.builders.get? id with
    | none =>
      rw [perform_event_of_none hid he hb]
      exact .idle hs n rfl rfl rfl rfl
    | some b =>
      obtain ⟨-, b', hd, -⟩ := perform_event hid he hb n
      exact hd.advances hs hb n
  | none =>
    cases c with
    | header | annotate | field | method => cases he
    | register identity id =>
      rw [entries_perform rfl]
      exact register_advances hs n identity id
    | newBuilder id settings =>
      refine .of_grows hs (.of_catalogs n rfl) rfl (fun {k b} hk => ?_) Or.inl
      rw [perform, Table.get?_put] at hk
      split_ifs at hk
      · cases hk
        exact Or.inr (holding_new _ n settings)
      · exact Or.inl hk
    | dropBuilder id =>
      refine .of_grows hs (.of_catalogs n rfl) rfl (fun {k b} hk => Or.inl ?_) Or.inl
      rw [perform, Table.get?_erase] at hk
      split_ifs at hk
      exact hk
    | finish id =>
      rw [home, perform]
      cases hb : s.builders.get? id with
      | none => exact .idle hs n rfl rfl rfl rfl
      | some b => exact finish_advances hs hb
    | read id bytes settings => exact read_advances hs n id bytes settings
    | readAll files settings schedule => exact readAll_advances hs n files settings schedule
    | _ =>
      rw [entries_perform rfl]
      exact .idle hs n rfl rfl rfl rfl

/-- The number of the catalog in which the class of a request is published. -/
def target (s : Session) (r : Request) : Nat := s.home (s.openCatalog r.catalog).2 r.command

theorem step_advances (hs : s.Sound) (r : Request) :
    s.Advances (s.target r) (s.step r).2.entries (s.step r).1 := by
  have h := perform_advances (hs.openCatalog r.catalog) (s.openCatalog r.catalog).2 r.command
  have hh : (s.openCatalog r.catalog).1.home (s.openCatalog r.catalog).2 r.command =
      s.target r := by
    unfold target home
    rw [builders_openCatalog]
  rw [hh] at h
  exact h.congr (catalogs_openCatalog ..) (nextSerial_openCatalog ..)

/-! ## Other builders -/

theorem perform_builder_of_ne (h : c.builder? ≠ some id) (s : Session) (n : Nat) :
    (s.perform n c).1.builders.get? id = s.builders.get? id := by
  cases he : c.event? with
  | some e =>
    obtain ⟨id', hid⟩ := Command.builder?_of_event? he
    have hne : id ≠ id' := fun heq => h (heq ▸ hid)
    cases hb : s.builders.get? id' with
    | none => rw [perform_event_of_none hid he hb]
    | some b =>
      obtain ⟨-, b', hd, -⟩ := perform_event hid he hb n
      rw [hd.get?, if_neg hne]
  | none =>
    cases c with
    | header | annotate | field | method => cases he
    | newBuilder id' => exact Table.get?_put_ne _ _ fun heq => h (heq ▸ rfl)
    | dropBuilder id' => exact Table.get?_erase_ne _ fun heq => h (heq ▸ rfl)
    | finish id' =>
      rw [perform]
      split
      · rfl
      · dsimp only
        rw [builders_finish]
        exact Table.get?_erase_ne _ fun heq => h (heq ▸ rfl)
    | read id' bytes settings =>
      obtain ⟨-, hb, -⟩ := s.read_fst n id' bytes settings
      exact congrArg (·.get? id) hb
    | _ => rfl

/-- **Frame.**  A request touches no builder but the one that it addresses. -/
theorem step_builder_of_ne {r : Request} (h : r.command.builder? ≠ some id) (s : Session) :
    (s.step r).1.builders.get? id = s.builders.get? id := by
  rw [step, perform_builder_of_ne h, builders_openCatalog]

/-! ## Runs -/

theorem run_cons (s : Session) (r : Request) (requests : List Request) :
    (s.run (r :: requests)).1 = ((s.step r).1.run requests).1 :=
  rfl

theorem run_append (s : Session) (requests requests' : List Request) :
    (s.run (requests ++ requests')).1 = ((s.run requests).1.run requests').1 := by
  induction requests generalizing s with
  | nil => rfl
  | cons r requests ih => exact ih (s.step r).1

theorem Sound.run (hs : s.Sound) (requests : List Request) : (s.run requests).1.Sound := by
  induction requests generalizing s with
  | nil => exact hs
  | cons r requests ih => exact ih (step_advances hs r).sound

/-- The classes that the replies to a run of requests hand out, as far as they
    belong to the catalog with number `n`. -/
def publishedIn (s : Session) (n : Nat) : List Request → List Entry
  | [] => []
  | r :: requests =>
    (if s.target r = n then (s.step r).2.entries else []) ++ (s.step r).1.publishedIn n requests

/-- **Runs.**  A catalog grows by what the replies of a run hand out. -/
theorem run_grows (hs : s.Sound) (n : Nat) (requests : List Request) :
    (s.catalog n).Grows (s.publishedIn n requests) ((s.run requests).1.catalog n) := by
  induction requests generalizing s with
  | nil => exact .refl _
  | cons r requests ih =>
    have h := step_advances hs r
    have hg := h.grows n
    simp only [eq_comm (a := n)] at hg
    exact hg.trans (ih h.sound)

/-- The serial numbers that a run gives out count up. -/
theorem run_serials (hs : s.Sound) (requests : List Request) :
    ((s.run requests).2.flatMap Reply.entries).Pairwise (fun d e => d.serial < e.serial) ∧
      ∀ e ∈ (s.run requests).2.flatMap Reply.entries, s.nextSerial ≤ e.serial := by
  induction requests generalizing s with
  | nil => exact ⟨.nil, nofun⟩
  | cons r requests ih =>
    have h := step_advances hs r
    obtain ⟨ho, hl⟩ := ih h.sound
    have heq : (s.run (r :: requests)).2.flatMap Reply.entries =
        (s.step r).2.entries ++ ((s.step r).1.run requests).2.flatMap Reply.entries := rfl
    rw [heq]
    refine ⟨List.pairwise_append.2 ⟨h.ordered, ho, fun d hd e he => ?_⟩, fun e he => ?_⟩
    · exact (h.serials d hd).2.trans_le (hl e he)
    · rcases List.mem_append.1 he with he | he
      · exact (h.serials e he).1
      · exact h.later.trans (hl e he)

end Session

end ClassCatalog
