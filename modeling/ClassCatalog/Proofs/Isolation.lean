/-
  Builders that share a catalog do not get in each other's way.

  `builder_isolated` compares two sessions: one in which a builder is at work
  among any others, and one in which it is alone.  Whatever the builder is asked
  it replies the same in both, unless alone it would end with a class and one
  of that name was handed out from its catalog before.
-/
import ClassCatalog.Proofs.Builders

namespace ClassCatalog.Session

variable {s : Session} {id : String} {requests : List Request} {r : Request}

theorem mem_own {q : Request} :
    q ∈ own id requests ↔ q ∈ requests ∧ q.command.builder? = some id := by
  rw [own, List.mem_filter, decide_eq_true_eq]

theorem own_own (id : String) (requests : List Request) :
    own id (own id requests) = own id requests :=
  List.filter_eq_self.2 fun _ hq => decide_eq_true (mem_own.1 hq).2

/-- Of the commands that address a builder only its end hands out a class. -/
theorem entries_of_ne_finish (hid : r.command.builder? = some id) (hf : r.command ≠ .finish id)
    (s : Session) : (s.step r).2.entries = [] := by
  refine entries_perform (s := (s.openCatalog r.catalog).1) (n := (s.openCatalog r.catalog).2) ?_
  cases hc : r.command <;> rw [hc] at hid hf <;> first | rfl | cases hid
  exact absurd rfl hf

/-- The own requests of a builder that is still there have published nothing. -/
theorem publishedIn_own (ho : ∀ q ∈ requests, q.command.builder? = some id)
    (hn : ∀ q ∈ requests, ∀ settings, q.command ≠ .newBuilder id settings)
    (hb : (s.run requests).1.builder? id ≠ none) (m : Nat) : s.publishedIn m requests = [] := by
  induction requests generalizing s with
  | nil => rfl
  | cons q requests ih =>
    have hq := ho q List.mem_cons_self
    have hn' : ∀ q' ∈ requests, ∀ settings, q'.command ≠ .newBuilder id settings :=
      fun q' hq' => hn q' (List.mem_cons_of_mem _ hq')
    -- a builder whose build has ended is gone for good
    have hf : q.command ≠ .finish id := by
      intro hf
      refine hb ?_
      rw [run_cons]
      refine run_builder?_of_none hn' ?_
      rw [(step_builder? hq (hn q List.mem_cons_self) s).1, hf]
      cases s.builder? id <;> rfl
    have ih := ih (s := (s.step q).1) (fun q' hq' => ho q' (List.mem_cons_of_mem _ hq')) hn' hb
    rw [publishedIn, entries_of_ne_finish hq hf, ite_self, ih]
    rfl

/-- A builder is the same after the requests that address it alone. -/
theorem builder?_alone {middle : List Request}
    (hm : ∀ q ∈ middle, ∀ settings, q.command ≠ .newBuilder id settings)
    (before : List Request) (catalog : String) (settings : Settings) :
    (after (before ++ ⟨catalog, .newBuilder id settings⟩ :: middle)).builder? id =
      (after (⟨catalog, .newBuilder id settings⟩ :: own id middle)).builder? id := by
  have hown : ∀ q ∈ own id middle, ∀ settings, q.command ≠ .newBuilder id settings :=
    fun q hq => hm q (mem_own.1 hq).1
  have halone : after (⟨catalog, .newBuilder id settings⟩ :: own id middle) =
      ((({} : Session).step ⟨catalog, .newBuilder id settings⟩).1.run (own id middle)).1 := rfl
  rw [after_append, run_cons, halone, run_builder? hm, run_builder? hown, own_own, builder?,
    builder?, step_newBuilder, step_newBuilder]
  rfl

/-- As long as a lone builder is there, nothing was handed out. -/
theorem publishedBy_alone {own : List Request} {catalog : String} {settings : Settings}
    (ho : ∀ q ∈ own, q.command.builder? = some id)
    (hn : ∀ q ∈ own, ∀ settings, q.command ≠ .newBuilder id settings)
    (hb : (after (⟨catalog, .newBuilder id settings⟩ :: own)).builder? id ≠ none) (n : Nat) :
    publishedBy n (⟨catalog, .newBuilder id settings⟩ :: own) = [] := by
  have hrest := publishedIn_own ho hn
    (s := (({} : Session).step ⟨catalog, .newBuilder id settings⟩).1) hb n
  rw [publishedBy, publishedIn, hrest, List.append_nil]
  exact ite_self _

/-- **Isolation.**  A builder at work among others is what it would be alone, and
    replies what it would reply alone, but that its class comes too late if one
    of that name was handed out from its catalog before. -/
theorem builder_isolated {before middle : List Request} {catalog id : String} {settings : Settings}
    {r : Request} (hm : ∀ q ∈ middle, ∀ settings, q.command ≠ .newBuilder id settings)
    (hr : r.command.builder? = some id) (hn : ∀ settings, r.command ≠ .newBuilder id settings) :
    let new : Request := ⟨catalog, .newBuilder id settings⟩
    let joint := after (before ++ new :: middle)
    let alone := after (new :: own id middle)
    let taken := publishedBy ((after before).openCatalog catalog).2 (before ++ new :: middle)
    joint.builder? id = alone.builder? id ∧
    (∀ e, (alone.step r).2 = .finished (.ok e) →
      (joint.step r).2 = if ∃ d ∈ taken, d.qualifiedName = e.qualifiedName
        then .finished (.error (.alreadyBuilt e.qualifiedName))
        else .finished (.ok ⟨joint.nextSerial, e.model⟩)) ∧
    ((∀ e, (alone.step r).2 ≠ .finished (.ok e)) → (joint.step r).2 = (alone.step r).2) := by
  intro new joint alone taken
  have hsame : joint.builder? id = alone.builder? id := builder?_alone hm before catalog settings
  refine ⟨hsame, ?_⟩
  by_cases hf : r.command = .finish id
  · obtain ⟨c, command⟩ := r
    cases hf
    cases hb : joint.builders.get? id with
    | none =>
      have hb' : alone.builders.get? id = none := by
        rw [builder?, hb, builder?] at hsame
        exact Option.map_eq_none_iff.1 hsame.symm
      rw [finish_of_none hb, finish_of_none hb']
      constructor
      · intro e he
        cases he
      · intro
        rfl
    | some b =>
      obtain ⟨b', hb', heq⟩ : ∃ b', alone.builders.get? id = some b' ∧ b'.builder = b.builder := by
        rw [builder?, hb, builder?] at hsame
        exact Option.map_eq_some_iff.1 hsame.symm
      have hthere : alone.builder? id ≠ none := by
        rw [builder?, hb']
        exact Option.some_ne_none _
      have hnone : publishedBy b'.catalog (new :: own id middle) = [] :=
        publishedBy_alone (fun q hq => (mem_own.1 hq).2) (fun q hq => hm q (mem_own.1 hq).1)
          hthere b'.catalog
      rw [finish_after hb, finish_after hb', heq, hnone, catalog_after hm hb]
      cases hbuild : b.builder.build with
      | error error =>
        constructor
        · intro e he
          cases he
        · intro
          rfl
      | ok model =>
        dsimp only
        rw [if_neg (by simp)]
        refine ⟨fun e h => ?_, fun h => absurd rfl (h _)⟩
        cases h
        by_cases ht : ∃ d ∈ taken, d.qualifiedName = model.qualifiedName
        · rw [if_pos ht]
          exact (if_pos ht).symm
        · rw [if_neg ht]
          exact (if_neg ht).symm
  · rw [step_answer hr hn hf, step_answer hr hn hf, hsame]
    refine ⟨fun e he => ?_, fun _ => rfl⟩
    rw [← step_answer hr hn hf] at he
    have h := entries_of_ne_finish hr hf alone
    rw [he] at h
    cases h

/-- The header of a class `a/B`. -/
def twinHeader : ClassHeader := ⟨⟨0⟩, "a/B", none, none, []⟩

/-- Of two builders of one class the one that ends later comes too late, although
    its header came when the class was pending; until then it cannot tell. -/
theorem builder_isolated_twins :
    let before : List Request := [⟨"c", .newBuilder "x" {}⟩, ⟨"c", .header "x" twinHeader⟩]
    let middle : List Request := [⟨"c", .header "y" twinHeader⟩, ⟨"c", .finish "x"⟩]
    let joint := after (before ++ ⟨"c", .newBuilder "y" {}⟩ :: middle)
    let alone := after (⟨"c", .newBuilder "y" {}⟩ :: own "y" middle)
    (∃ e, (alone.step ⟨"c", .finish "y"⟩).2 = .finished (.ok e)) ∧
      (joint.step ⟨"c", .finish "y"⟩).2 = .finished (.error (.alreadyBuilt "a.B")) ∧
      (joint.step ⟨"c", .builderState "y"⟩).2 = .builder (some "a/B") none := by
  intro before middle joint alone
  have hm : ∀ q ∈ middle, ∀ settings, q.command ≠ .newBuilder "y" settings := by
    intro q hq settings
    simp only [middle, List.mem_cons, List.not_mem_nil, or_false] at hq
    rcases hq with rfl | rfl <;> exact nofun
  obtain ⟨-, hfinish, -⟩ :=
    @builder_isolated before middle "c" "y" {} ⟨"c", .finish "y"⟩ hm rfl nofun
  obtain ⟨-, -, hstate⟩ :=
    @builder_isolated before middle "c" "y" {} ⟨"c", .builderState "y"⟩ hm rfl nofun
  refine ⟨⟨_, rfl⟩, (hfinish _ rfl).trans (if_pos ?_), (hstate nofun).trans rfl⟩
  exact ⟨_, List.mem_cons_self, rfl⟩

end ClassCatalog.Session
