/-
  The builders of a session, one at a time.

  What becomes of a builder, and what it replies, is decided by the commands
  that address it; only the end of a build looks at the catalog.

  * `Command.onBuilder` and `Command.answer` are what a command makes of the
    builder that it addresses, and its reply;
  * `run_builder?`: after a run, a builder is what its own commands made of it;
  * `finish_reply`: the end of a build.
-/
import ClassCatalog.Proofs.Publication

namespace ClassCatalog

namespace Command

/-- What a command, other than one that makes a new builder, makes of the
    builder that it addresses. -/
def onBuilder (c : Command) (b : ClassBuilder) : Option ClassBuilder :=
  match c with
  | dropBuilder _ | finish _ => none
  | c => match c.event? with
    | some e => some (b.feed e).1
    | none => some b

/-- The reply to a command by the builder that it addresses, if there is one;
    the end of a build is not among them. -/
def answer (c : Command) (b? : Option ClassBuilder) : Reply :=
  match c, b? with
  | dropBuilder _, b? => .flag b?.isSome
  | _, none => .unknown
  | builderState _, some b => .builder b.name? b.failure?
  | c, some b => match c.event? with
    | some e => (b.feed e).2
    | none => .unknown

end Command

namespace Session

variable {s : Session} {id : String} {b : OpenBuilder} {c : Command} {r : Request} {n : Nat}

/-- The builder that is kept under an identifier. -/
def builder? (s : Session) (id : String) : Option ClassBuilder :=
  (s.builders.get? id).map (·.builder)

/-- The requests that address a builder. -/
def own (id : String) (requests : List Request) : List Request :=
  requests.filter fun r => r.command.builder? = some id

/-! ## Steps -/

theorem perform_builder? (hid : c.builder? = some id)
    (hn : ∀ settings, c ≠ .newBuilder id settings) (s : Session) (n : Nat) :
    (s.perform n c).1.builder? id = (s.builder? id).bind c.onBuilder ∧
      ∀ b', (s.perform n c).1.builders.get? id = some b' →
        ∃ b, s.builders.get? id = some b ∧ b'.catalog = b.catalog := by
  cases he : c.event? with
  | some e =>
    have ho : c.onBuilder = fun b => some (b.feed e).1 := by cases c <;> cases he <;> rfl
    rw [ho]
    cases hb : s.builders.get? id with
    | none =>
      rw [perform_event_of_none hid he hb, builder?, hb]
      refine ⟨rfl, fun b' h => ?_⟩
      cases h
    | some b =>
      obtain ⟨-, b', hd, hb'⟩ := perform_event hid he hb n
      rw [builder?, builder?, hd.get?, if_pos rfl, hb]
      refine ⟨congrArg some hb', fun b'' h => ?_⟩
      cases h
      exact ⟨b, rfl, hd.catalog⟩
  | none =>
    cases c with
    | header | annotate | field | method => cases he
    | newBuilder id' settings => cases hid; exact absurd rfl (hn settings)
    | dropBuilder id' =>
      cases hid
      have h : (s.perform n (.dropBuilder id)).1.builders.get? id = none := Table.get?_erase_self ..
      refine ⟨?_, fun b' hb' => ?_⟩
      · rw [builder?, h]
        cases s.builder? id <;> rfl
      · rw [h] at hb'
        cases hb'
    | finish id' =>
      cases hid
      have h : (s.perform n (.finish id)).1.builders.get? id = none := by
        rw [perform]
        cases hb : s.builders.get? id with
        | none => exact hb
        | some b =>
          dsimp only
          rw [builders_finish, Table.get?_erase_self]
      refine ⟨?_, fun b' hb' => ?_⟩
      · rw [builder?, h]
        cases s.builder? id <;> rfl
      · rw [h] at hb'
        cases hb'
    | builderState id' =>
      refine ⟨?_, fun b h => ⟨b, h, rfl⟩⟩
      rw [show (s.perform n (.builderState id')).1 = s from rfl]
      cases s.builder? id <;> rfl
    | _ => cases hid

theorem perform_answer (hid : c.builder? = some id)
    (hn : ∀ settings, c ≠ .newBuilder id settings) (hf : c ≠ .finish id) (s : Session) (n : Nat) :
    (s.perform n c).2 = c.answer (s.builder? id) := by
  cases he : c.event? with
  | some e =>
    cases hb : s.builders.get? id with
    | none =>
      rw [perform_event_of_none hid he hb, builder?, hb]
      cases c <;> cases he <;> rfl
    | some b =>
      rw [(perform_event hid he hb n).1, builder?, hb]
      cases c <;> cases he <;> rfl
  | none =>
    cases c with
    | header | annotate | field | method => cases he
    | newBuilder id' settings => cases hid; exact absurd rfl (hn settings)
    | finish id' => cases hid; exact absurd rfl hf
    | dropBuilder id' =>
      cases hid
      rw [perform, Command.answer, builder?, Option.isSome_map]
      rfl
    | builderState id' =>
      cases hid
      rw [perform, builder?]
      cases s.builders.get? id <;> rfl
    | _ => cases hid

/-! ## Runs -/

theorem builder?_openCatalog (s : Session) (name id : String) :
    (s.openCatalog name).1.builder? id = s.builder? id := by
  rw [builder?, builder?, builders_openCatalog]

theorem step_builder? (hid : r.command.builder? = some id)
    (hn : ∀ settings, r.command ≠ .newBuilder id settings) (s : Session) :
    (s.step r).1.builder? id = (s.builder? id).bind r.command.onBuilder ∧
      ∀ b', (s.step r).1.builders.get? id = some b' →
        ∃ b, s.builders.get? id = some b ∧ b'.catalog = b.catalog := by
  have h := perform_builder? hid hn (s.openCatalog r.catalog).1 (s.openCatalog r.catalog).2
  rw [builder?_openCatalog, builders_openCatalog] at h
  exact h

theorem step_answer (hid : r.command.builder? = some id)
    (hn : ∀ settings, r.command ≠ .newBuilder id settings) (hf : r.command ≠ .finish id)
    (s : Session) : (s.step r).2 = r.command.answer (s.builder? id) := by
  have h := perform_answer hid hn hf (s.openCatalog r.catalog).1 (s.openCatalog r.catalog).2
  rw [builder?_openCatalog] at h
  exact h

theorem step_newBuilder (s : Session) (catalog id : String) (settings : Settings) :
    (s.step ⟨catalog, .newBuilder id settings⟩).1.builders.get? id =
      some { catalog := (s.openCatalog catalog).2, builder := .ofSettings settings } :=
  Table.get?_put_self ..

section

variable {requests : List Request}

/-- **One builder.**  What becomes of a builder in a run is what its own
    commands make of it. -/
theorem run_builder? (hn : ∀ q ∈ requests, ∀ settings, q.command ≠ .newBuilder id settings)
    (s : Session) : (s.run requests).1.builder? id =
      (own id requests).foldl (fun b? q => b?.bind q.command.onBuilder) (s.builder? id) := by
  induction requests generalizing s with
  | nil => rfl
  | cons q requests ih =>
    have hq := hn q List.mem_cons_self
    have ih := ih (fun q' hq' => hn q' (List.mem_cons_of_mem _ hq')) (s.step q).1
    refine ih.trans ?_
    by_cases hid : q.command.builder? = some id
    · rw [own, own, List.filter_cons_of_pos (by simpa using hid), List.foldl_cons,
        (step_builder? hid hq s).1]
    · rw [own, own, List.filter_cons_of_neg (by simpa using hid), builder?,
        step_builder_of_ne hid, builder?]

theorem run_builder?_of_none
    (hn : ∀ q ∈ requests, ∀ settings, q.command ≠ .newBuilder id settings)
    (hb : s.builder? id = none) : (s.run requests).1.builder? id = none := by
  rw [run_builder? hn, hb]
  induction own id requests with
  | nil => rfl
  | cons _ _ ih => exact ih

/-- A builder stays with its catalog. -/
theorem run_catalog (hn : ∀ q ∈ requests, ∀ settings, q.command ≠ .newBuilder id settings)
    {s : Session} {b' : OpenBuilder} (hb : (s.run requests).1.builders.get? id = some b') :
    ∃ b, s.builders.get? id = some b ∧ b'.catalog = b.catalog := by
  induction requests generalizing s with
  | nil => exact ⟨b', hb, rfl⟩
  | cons q requests ih =>
    obtain ⟨b, hb, hc⟩ := ih (fun q' hq' => hn q' (List.mem_cons_of_mem _ hq'))
      (s := (s.step q).1) hb
    rw [hc]
    by_cases hid : q.command.builder? = some id
    · exact (step_builder? hid (hn q List.mem_cons_self) s).2 b hb
    · rw [step_builder_of_ne hid] at hb
      exact ⟨b, hb, rfl⟩

/-- A builder is at work on the catalog for which it was made. -/
theorem catalog_after (hn : ∀ q ∈ requests, ∀ settings, q.command ≠ .newBuilder id settings)
    {before : List Request} {catalog : String} {settings : Settings}
    (hb : (after (before ++ ⟨catalog, .newBuilder id settings⟩ :: requests)).builders.get? id =
      some b) : b.catalog = ((after before).openCatalog catalog).2 := by
  rw [after_append, run_cons] at hb
  obtain ⟨b₀, hb₀, hcat⟩ := run_catalog hn hb
  rw [step_newBuilder] at hb₀
  cases hb₀
  exact hcat

end

/-! ## The end of a build -/

theorem perform_finish (hb : s.builders.get? id = some b) (n : Nat) :
    (s.perform n (.finish id)).2 = .finished (s.finish id b).2 := by
  rw [perform, hb]

theorem perform_finish_of_none (hb : s.builders.get? id = none) (n : Nat) :
    (s.perform n (.finish id)).2 = .unknown := by
  rw [perform, hb]

theorem finish_of_none (hb : s.builders.get? id = none) (catalog : String) :
    (s.step ⟨catalog, .finish id⟩).2 = .unknown :=
  perform_finish_of_none ((congrArg (·.get? id) (builders_openCatalog s catalog)).trans hb)
    (s.openCatalog catalog).2

theorem finish_reply (hs : s.Sound) (hb : s.builders.get? id = some b) (catalog : String) :
    ∃ result, b.builder.Finished s.nextSerial (s.catalog b.catalog) result ∧
      (s.step ⟨catalog, .finish id⟩).2 = .finished (result.map (·.2)) := by
  have hb' := (congrArg (·.get? id) (builders_openCatalog s catalog)).trans hb
  obtain ⟨result, hf, hr, -⟩ := finish_finished ((hs.openCatalog catalog).builders hb') id
  rw [catalog_congr (catalogs_openCatalog s catalog), nextSerial_openCatalog] at hf
  exact ⟨result, hf, (perform_finish hb' (s.openCatalog catalog).2).trans (congrArg _ hr)⟩

/-- The end of a build is decided by the builder and by what was handed out from
    its catalog before. -/
theorem finish_after {requests : List Request} (hb : (after requests).builders.get? id = some b)
    (catalog : String) :
    ((after requests).step ⟨catalog, .finish id⟩).2 = .finished
      (match b.builder.build with
      | .error e => .error e
      | .ok model =>
        if ∃ d ∈ publishedBy b.catalog requests, d.qualifiedName = model.qualifiedName
        then .error (.alreadyBuilt model.qualifiedName)
        else .ok ⟨(after requests).nextSerial, model⟩) := by
  obtain ⟨result, hf, hr⟩ := finish_reply (sound_after requests) hb catalog
  have hq {model : ClassModel} (hm : b.builder.build = .ok model) :
      Name.qualified model.qualifiedName = model.qualifiedName := by
    obtain ⟨name, -, h⟩ := ClassBuilder.build_qualifiedName hm
    rw [h, Name.qualified_qualified]
  rw [hr]
  cases hf with
  | failed he => rw [he]; rfl
  | new hm hn =>
    rw [hm]
    dsimp only
    rw [if_neg]
    · rfl
    · rintro ⟨d, hd, h⟩
      rw [resolve?_after.2 ⟨hd, h.trans (hq hm).symm⟩] at hn
      cases hn
  | late hm hd =>
    obtain ⟨hd, h⟩ := resolve?_after.1 hd
    rw [hm]
    dsimp only
    rw [if_pos ⟨_, hd, h.trans (hq hm)⟩]
    rfl

end Session

end ClassCatalog
