/-
  Reading a batch of class files under any schedule.

  * `Reading.Stands` is what a read relies on, wherever it was interrupted;
    a step of the read keeps it, and so does whatever else happens to the
    catalog;
  * `Batch.Inv` is the invariant of a batch: the catalog has grown by the
    classes of the reads that ended well, and has slots for the headers that
    are through;
  * `Batch.Alike` relates two batches that differ in one file only, which fails
    in both.
-/
import ClassCatalog.ClassFile.Batch
import ClassCatalog.Proofs.Reading

namespace ClassCatalog.ClassFile

variable {n i j : Nat} {o : Outcome} {c c' : Catalog} {r r' : Reading} {b b' : Batch}
  {es : List Entry} {os : List Outcome}

/-! ## A read under way -/

/-- The header of an outcome registers the identity `a`, in one of its forms. -/
def Outcome.Names (o : Outcome) (a : String) : Prop :=
  ∃ name, o.identity? = some name ∧ Name.qualified a = Name.qualified name

namespace Reading

/-- The number of steps that a read still has to take. -/
def left : Reading → Nat
  | fresh _ => 2
  | begun .. => 1
  | ended _ => 0

/-- The classes that a read has published. -/
def published : Reading → List Entry
  | ended r => ClassFile.published r
  | _ => []

@[simp] theorem left_step (n : Nat) (c : Catalog) (r : Reading) :
    (r.step n c).2.left = r.left - 1 := by
  cases r <;> rfl

theorem left_le_two (r : Reading) : r.left ≤ 2 := by
  cases r <;> simp [left]

theorem left_eq_zero (h : r.left = 0) : ∃ x, r = .ended x := by
  cases r with
  | ended x => exact ⟨x, rfl⟩
  | _ => cases h

/-- What a read of the outcome `o` relies on. -/
inductive Stands (n : Nat) (o : Outcome) (c : Catalog) : Reading → Prop
  | fresh : Stands n o c (.fresh o)
  | begun {slot? : Option Nat} : o.Holds slot? c → Stands n o c (.begun o slot?)
  | failed {e : ReadError} : o.result = .error e → Stands n o c (.ended (.error e))
  | new {model : ClassModel} : o.result = .ok model → Stands n o c (.ended (.ok ⟨n, model⟩))
  | late {model : ClassModel} {d : Entry} : o.result = .ok model →
      c.resolve? model.qualifiedName = some d →
      Stands n o c (.ended (.error (.build (.alreadyBuilt model.qualifiedName))))

theorem Stands.of_begun {o' : Outcome} {slot? : Option Nat}
    (h : Stands n o c (.begun o' slot?)) : o' = o ∧ o.Holds slot? c := by
  cases h with
  | begun hs => exact ⟨rfl, hs⟩

theorem Stands.mono (h : r.Stands n o c) (hg : c.Grows es c') : r.Stands n o c' := by
  cases h with
  | fresh => exact .fresh
  | begun hs => exact .begun (hs.mono hg)
  | failed hr => exact .failed hr
  | new hr => exact .new hr
  | late hr hd => exact .late hr (hg.resolve_some hd)

theorem Stands.step (ho : o.Named) (h : r.Stands n o c) :
    (r.step n c).2.Stands n o (r.step n c).1 := by
  cases h with
  | fresh => exact .begun (o.register_holds c)
  | @begun slot? hs =>
    have hp := Outcome.publish_cases ho hs n
    simp only [Reading.step]
    generalize o.publish n slot? c = p at hp
    cases hp with
    | failed hr => exact .failed hr
    | new hr => exact .new hr
    | late hr hd => exact .late hr hd
  | failed hr => exact .failed hr
  | new hr => exact .new hr
  | late hr hd => exact .late hr hd

/-- A step publishes what the read has published more after it. -/
theorem Stands.step_grows (ho : o.Named) (h : r.Stands n o c) :
    ∃ es, c.Grows es (r.step n c).1 ∧ (r.step n c).2.published = r.published ++ es := by
  cases h with
  | fresh => exact ⟨[], o.register_grows c, rfl⟩
  | begun hs => exact ⟨_, (Outcome.publish_cases ho hs n).grows, (List.nil_append _).symm⟩
  | failed | new | late => exact ⟨[], .refl c, (List.append_nil _).symm⟩

/-- Only the first step registers. -/
theorem Stands.step_contains (ho : o.Named) (h : r.Stands n o c) (a : String) :
    (r.step n c).1.contains a ↔ c.contains a ∨ r.left = 2 ∧ o.Names a := by
  cases h with
  | fresh => simpa [Reading.step, left, Outcome.Names] using o.contains_register c a
  | begun hs =>
    simp only [Reading.step, (Outcome.publish_cases ho hs n).contains, left]
    simp
  | failed | new | late => simp [Reading.step, left]

end Reading

/-! ## Reads in two catalogs -/

namespace Reading

/-- A read but for the number of the slot that it holds. -/
def unslotted : Reading → Reading
  | begun o _ => begun o none
  | r => r

/-- A step looks at nothing of the catalog but what the names resolve to. -/
theorem step_congr (ho : o.Named) (h : r.Stands n o c) (h' : r'.Stands n o c')
    (hr : r.unslotted = r'.unslotted) (hc : ∀ a, c.resolve? a = c'.resolve? a) :
    (r.step n c).2.unslotted = (r'.step n c').2.unslotted ∧
      ∀ a, (r.step n c).1.resolve? a = (r'.step n c').1.resolve? a := by
  have hres {es : List Entry} {d d' : Catalog} (hg : c.Grows es d) (hg' : c'.Grows es d')
      (a : String) : d.resolve? a = d'.resolve? a := by
    refine Option.ext fun e => ?_
    rw [hg.resolve, hg'.resolve, hc]
  cases r with
  | fresh =>
    cases r' with
    | fresh =>
      cases h; cases h'
      exact ⟨rfl, hres (o.register_grows c) (o.register_grows c')⟩
    | _ => cases hr
  | begun _ slot? =>
    cases r' with
    | begun _ slot?' =>
      obtain ⟨rfl, hs⟩ := h.of_begun
      obtain ⟨rfl, hs'⟩ := h'.of_begun
      have hp := Outcome.publish_cases ho hs n
      have hp' := Outcome.publish_cases ho hs' n
      simp only [step]
      generalize Outcome.publish _ n slot? c = p at hp
      generalize Outcome.publish _ n slot?' c' = p' at hp'
      -- both are decided by the result of the file and by what its name resolves to
      have h₂ : p.2 = p'.2 := by
        cases hp <;> cases hp' <;> simp_all
      refine ⟨by rw [h₂], hres hp.grows ?_⟩
      rw [h₂]
      exact hp'.grows
    | _ => cases hr
  | ended =>
    cases r' with
    | ended => exact ⟨hr, hc⟩
    | _ => cases hr

/-- A step of a read that fails publishes nothing. -/
theorem Stands.step_of_failing {e : ReadError} (ho : o.result = .error e) (h : r.Stands n o c)
    (a : String) : (r.step n c).1.resolve? a = c.resolve? a := by
  cases h with
  | fresh =>
    refine Option.ext fun e => (o.register_grows c).resolve.trans ?_
    simp
  | begun hs => rw [Reading.step, Outcome.publish, ho]
  | _ => rfl

end Reading

/-! ## A batch under way -/

namespace Batch

/-- The classes that the reads of a batch have published. -/
def published (b : Batch) : List Entry := b.readings.flatMap (·.published)

theorem step_of_none (h : b.readings[i]? = none) : b.step n i = b := by
  rw [step, h]

theorem step_of_some (h : b.readings[i]? = some r) :
    b.step n i = ⟨(r.step (n + i) b.catalog).1, b.readings.set i (r.step (n + i) b.catalog).2⟩ := by
  rw [step, h]

theorem getElem?_step (h : b.readings[i]? = some r) (j : Nat) :
    (b.step n i).readings[j]? =
      if i = j then some (r.step (n + i) b.catalog).2 else b.readings[j]? := by
  rw [step_of_some h]
  split_ifs with hij
  · subst hij
    exact List.getElem?_set_self (List.getElem?_eq_some_iff.1 h).1
  · exact List.getElem?_set_ne hij

theorem published_step (h : b.readings[i]? = some r)
    (hp : (r.step (n + i) b.catalog).2.published = r.published ++ es) :
    (b.published ++ es).Perm (b.step n i).published := by
  obtain ⟨hi, rfl⟩ := List.getElem?_eq_some_iff.1 h
  have hb : b.published = (b.readings.take i).flatMap (·.published) ++
      (b.readings[i].published ++ (b.readings.drop (i + 1)).flatMap (·.published)) := by
    conv_lhs => rw [published, ← List.take_append_drop i b.readings, List.drop_eq_getElem_cons hi]
    rw [List.flatMap_append, List.flatMap_cons]
  rw [hb, step_of_some h, published, List.set_eq_take_append_cons_drop, if_pos hi,
    List.flatMap_append, List.flatMap_cons, hp, List.append_assoc, List.append_assoc,
    List.append_assoc]
  exact (List.perm_append_comm.append_left _).append_left _

/-- The headers that are through after a step. -/
theorem begun_step (hr : b.readings[i]? = some r) (ho : os[i]? = some o) (a : String) :
    (∃ (j : Nat) (o' : Outcome) (r' : Reading),
      os[j]? = some o' ∧ (b.step n i).readings[j]? = some r' ∧ r'.left < 2 ∧ o'.Names a) ↔
    (∃ (j : Nat) (o' : Outcome) (r' : Reading),
      os[j]? = some o' ∧ b.readings[j]? = some r' ∧ r'.left < 2 ∧ o'.Names a) ∨
      r.left = 2 ∧ o.Names a := by
  constructor
  · rintro ⟨j, o', r', hj, hr', hl, ha⟩
    rw [getElem?_step hr] at hr'
    split_ifs at hr' with hij
    · subst hij
      rw [ho] at hj
      cases hj; cases hr'
      rw [Reading.left_step] at hl
      rcases Nat.lt_or_ge r.left 2 with hlt | hge
      · exact Or.inl ⟨i, o, r, ho, hr, hlt, ha⟩
      · exact Or.inr ⟨by omega, ha⟩
    · exact Or.inl ⟨j, o', r', hj, hr', hl, ha⟩
  · rintro (⟨j, o', r', hj, hr', hl, ha⟩ | ⟨hl, ha⟩)
    · by_cases hij : i = j
      · subst hij
        rw [hr] at hr'
        cases hr'
        exact ⟨i, o', _, hj, by rw [getElem?_step hr, if_pos rfl],
          by rw [Reading.left_step]; omega, ha⟩
      · exact ⟨j, o', r', hj, by rw [getElem?_step hr, if_neg hij, hr'], hl, ha⟩
    · exact ⟨i, o, _, ho, by rw [getElem?_step hr, if_pos rfl],
        by rw [Reading.left_step]; omega, ha⟩

/-- The invariant of a batch of the outcomes `os`, started with the catalog `c`. -/
structure Inv (n : Nat) (c : Catalog) (os : List Outcome) (b : Batch) : Prop where
  length : b.readings.length = os.length
  stands : ∀ {i : Nat} {o : Outcome} {r : Reading}, os[i]? = some o → b.readings[i]? = some r →
    r.Stands (n + i) o b.catalog
  grows : c.Grows b.published b.catalog
  contains : ∀ a, b.catalog.contains a ↔ c.contains a ∨
    ∃ (i : Nat) (o : Outcome) (r : Reading),
      os[i]? = some o ∧ b.readings[i]? = some r ∧ r.left < 2 ∧ o.Names a

theorem Inv.init (n : Nat) (c : Catalog) (os : List Outcome) : Inv n c os ⟨c, os.map .fresh⟩ where
  length := List.length_map _
  stands ho hr := by
    rw [List.getElem?_map, ho] at hr
    cases hr
    exact .fresh
  grows := by
    have : Batch.published ⟨c, os.map .fresh⟩ = [] := by
      rw [published, List.flatMap_map]
      exact List.flatMap_eq_nil_iff.2 fun _ _ => rfl
    rw [this]
    exact .refl c
  contains a := by
    refine ⟨Or.inl, fun h => h.resolve_right ?_⟩
    rintro ⟨i, o, r, ho, hr, hl, -⟩
    rw [List.getElem?_map, ho] at hr
    cases hr
    exact absurd hl (lt_irrefl 2)

theorem Inv.step (hos : ∀ o ∈ os, o.Named) (h : b.Inv n c os) (i : Nat) :
    (b.step n i).Inv n c os := by
  cases hr : b.readings[i]? with
  | none => rwa [step_of_none hr]
  | some r =>
    have hi : i < os.length := h.length ▸ (List.getElem?_eq_some_iff.1 hr).1
    have ho : os[i]? = some os[i] := List.getElem?_eq_getElem hi
    have hn : os[i].Named := hos _ (List.getElem_mem hi)
    have hst := h.stands ho hr
    obtain ⟨es, hg, hp⟩ := hst.step_grows hn
    have hcat : (b.step n i).catalog = (r.step (n + i) b.catalog).1 := by rw [step_of_some hr]
    refine ⟨?_, fun {j o r'} hj hr' => ?_, ?_, fun a => ?_⟩
    · rw [step_of_some hr, List.length_set, h.length]
    · rw [hcat]
      rw [getElem?_step hr] at hr'
      split_ifs at hr' with hij
      · subst hij
        rw [ho] at hj
        cases hj; cases hr'
        exact hst.step hn
      -- whoever steps, the slots that the others hold stay where they are
      · exact (h.stands hj hr').mono hg
    · rw [hcat]
      exact (h.grows.trans hg).perm (published_step hr hp)
    · rw [hcat, hst.step_contains hn, h.contains, begun_step hr ho, or_assoc]

theorem Inv.run (hos : ∀ o ∈ os, o.Named) (schedule : List Nat) :
    ∀ {b : Batch}, b.Inv n c os → (b.run n schedule).Inv n c os := by
  induction schedule with
  | nil => exact fun h => h
  | cons i schedule ih => exact fun h => ih (h.step hos i)

/-! ## The end of a batch -/

theorem left_step (b : Batch) (i j : Nat) :
    ((b.step n i).readings[j]?).map (·.left) =
      (b.readings[j]?).map fun r => r.left - if i = j then 1 else 0 := by
  cases hr : b.readings[i]? with
  | none =>
    rw [step_of_none hr]
    split_ifs with hij
    · rw [← hij, hr]; rfl
    · rfl
  | some r =>
    rw [getElem?_step hr]
    split_ifs with hij
    · rw [← hij, hr, Option.map_some, Option.map_some, Reading.left_step]
    · rfl

theorem left_run (schedule : List Nat) (j : Nat) : ∀ b : Batch,
    ((b.run n schedule).readings[j]?).map (·.left) =
      (b.readings[j]?).map fun r => r.left - schedule.count j := by
  induction schedule with
  | nil => exact fun _ => rfl
  | cons i schedule ih =>
    intro b
    rw [show b.run n (i :: schedule) = (b.step n i).run n schedule from rfl, ih]
    have h := congrArg (Option.map fun l => l - schedule.count j) (left_step (n := n) b i j)
    rw [Option.map_map, Option.map_map] at h
    refine h.trans ?_
    congr 1
    funext r
    rw [Function.comp_apply, List.count_cons, Nat.sub_sub, Nat.add_comm]
    simp only [beq_iff_eq]

theorem count_inOrder (m j : Nat) : (inOrder m).count j = if j < m then 2 else 0 := by
  induction m with
  | zero => rfl
  | succ m ih =>
    have : inOrder (m + 1) = inOrder m ++ [m, m] := by
      rw [inOrder, inOrder, List.range_succ, List.flatMap_append, List.flatMap_singleton]
    rw [this, List.count_append, ih]
    by_cases h : m = j
    · subst h; simp
    · rw [List.count_eq_zero.2 (by simp [Ne.symm h])]
      split_ifs <;> omega

theorem ended_of_left {l : List Reading} (h : ∀ r ∈ l, r.left = 0) :
    ∃ rs : List (Except ReadError Entry), l = rs.map .ended := by
  induction l with
  | nil => exact ⟨[], rfl⟩
  | cons r l ih =>
    obtain ⟨x, rfl⟩ := Reading.left_eq_zero (h r List.mem_cons_self)
    obtain ⟨rs, rfl⟩ := ih fun r' hr' => h r' (List.mem_cons_of_mem _ hr')
    exact ⟨x :: rs, rfl⟩

/-- After two steps of each, all reads have ended. -/
theorem Inv.ended (h : b.Inv n c os) {schedule : List Nat}
    (hs : ∀ j < os.length, 2 ≤ schedule.count j) :
    ∃ rs : List (Except ReadError Entry), (b.run n schedule).readings = rs.map .ended := by
  refine ended_of_left fun r hr => ?_
  obtain ⟨j, hj⟩ := List.mem_iff_getElem?.1 hr
  have hl := left_run (n := n) schedule j b
  rw [hj, Option.map_some, eq_comm, Option.map_eq_some_iff] at hl
  obtain ⟨r₀, hr₀, hl⟩ := hl
  have h₂ := hs j (h.length ▸ (List.getElem?_eq_some_iff.1 hr₀).1)
  have := r₀.left_le_two
  omega

theorem step_of_ended {x : Except ReadError Entry} (h : b.readings[i]? = some (.ended x)) :
    b.step n i = b := by
  obtain ⟨hi, hx⟩ := List.getElem?_eq_some_iff.1 h
  rw [step_of_some h, Reading.step, ← hx, List.set_getElem_self]

theorem run_of_ended {rs : List (Except ReadError Entry)} (h : b.readings = rs.map .ended)
    (schedule : List Nat) : b.run n schedule = b := by
  induction schedule with
  | nil => rfl
  | cons i schedule ih =>
    have hi : b.step n i = b := by
      cases hx : rs[i]? with
      | none => exact step_of_none (by rw [h, List.getElem?_map, hx]; rfl)
      | some x => exact step_of_ended (by rw [h, List.getElem?_map, hx]; rfl)
    exact (congrArg (fun b => run n b schedule) hi).trans ih

/-! ## Two batches that differ in a failing file -/

theorem getElem?_step_ne (n : Nat) (b : Batch) (h : i ≠ j) :
    (b.step n i).readings[j]? = b.readings[j]? := by
  cases hr : b.readings[i]? with
  | none => rw [step_of_none hr]
  | some r => rw [getElem?_step hr, if_neg h]

theorem Inv.step_of_failing (h : b.Inv n c os)
    (hf : ∀ o, os[i]? = some o → ∃ e, o.result = .error e) (a : String) :
    (b.step n i).catalog.resolve? a = b.catalog.resolve? a := by
  cases hr : b.readings[i]? with
  | none => rw [step_of_none hr]
  | some r =>
    have hi : i < os.length := h.length ▸ (List.getElem?_eq_some_iff.1 hr).1
    have ho : os[i]? = some os[i] := List.getElem?_eq_getElem hi
    obtain ⟨e, he⟩ := hf _ ho
    rw [step_of_some hr]
    exact (h.stands ho hr).step_of_failing he a

/-- Two batches agree in all reads but that with index `i`, and in what is
    published. -/
structure Alike (i : Nat) (b b' : Batch) : Prop where
  readings : ∀ {j : Nat}, j ≠ i →
    (b.readings[j]?).map (·.unslotted) = (b'.readings[j]?).map (·.unslotted)
  resolve : ∀ a, b.catalog.resolve? a = b'.catalog.resolve? a

section

variable {os' : List Outcome} (hn : ∀ o ∈ os, o.Named) (hn' : ∀ o ∈ os', o.Named)
  (hos : ∀ j, j ≠ i → os[j]? = os'[j]?) (hf : ∀ o, os[i]? = some o → ∃ e, o.result = .error e)
  (hf' : ∀ o, os'[i]? = some o → ∃ e, o.result = .error e)

include hn hos hf hf'

theorem Alike.step (h : b.Inv n c os) (h' : b'.Inv n c' os') (ha : b.Alike i b') (k : Nat) :
    (b.step n k).Alike i (b'.step n k) := by
  by_cases hk : k = i
  -- the file that fails has its step in both batches, and publishes in neither
  · subst hk
    refine ⟨fun hj => ?_, fun a => ?_⟩
    · rw [getElem?_step_ne n b hj.symm, getElem?_step_ne n b' hj.symm, ha.readings hj]
    · rw [h.step_of_failing hf, h'.step_of_failing hf', ha.resolve]
  · have hu := ha.readings hk
    cases hr : b.readings[k]? with
    | none =>
      rw [hr, Option.map_none, eq_comm, Option.map_eq_none_iff] at hu
      rw [step_of_none hr, step_of_none hu]
      exact ha
    | some r =>
      rw [hr, Option.map_some, eq_comm, Option.map_eq_some_iff] at hu
      obtain ⟨r', hr', hu⟩ := hu
      have hi : k < os.length := h.length ▸ (List.getElem?_eq_some_iff.1 hr).1
      have ho : os[k]? = some os[k] := List.getElem?_eq_getElem hi
      obtain ⟨hu', hres⟩ := Reading.step_congr (hn _ (List.getElem_mem hi)) (h.stands ho hr)
        (h'.stands ((hos k hk).symm.trans ho) hr') hu.symm ha.resolve
      refine ⟨fun {j} hj => ?_, fun a => ?_⟩
      · rw [getElem?_step hr, getElem?_step hr']
        split_ifs
        · exact congrArg some hu'
        · exact ha.readings hj
      · rw [step_of_some hr, step_of_some hr']
        exact hres a

include hn'

theorem Alike.run (schedule : List Nat) : ∀ {b b' : Batch}, b.Inv n c os → b'.Inv n c' os' →
    b.Alike i b' → (b.run n schedule).Alike i (b'.run n schedule) := by
  induction schedule with
  | nil => exact fun _ _ ha => ha
  | cons k schedule ih =>
    exact fun h h' ha => ih (h.step hn k) (h'.step hn' k) (ha.step hn hos hf hf' h h' k)

end

end Batch

/-! ## Batches of files -/

/-- A batch of files after the steps of a schedule and those that it leaves
    over. -/
def Batch.done (s : Settings) (serial : Nat) (c : Catalog) (files : List (List UInt8))
    (schedule : List Nat) : Batch :=
  (Batch.ofFiles s c files).run serial (schedule ++ Batch.inOrder files.length)

theorem ofFiles_eq (s : Settings) (c : Catalog) (files : List (List UInt8)) :
    Batch.ofFiles s c files = ⟨c, (files.map (outcomeOf s)).map .fresh⟩ := by
  rw [Batch.ofFiles, List.map_map]; rfl

theorem named_of_mem {s : Settings} {files : List (List UInt8)} :
    ∀ o ∈ files.map (outcomeOf s), o.Named := by
  intro o ho
  obtain ⟨bytes, -, rfl⟩ := List.mem_map.1 ho
  exact outcomeOf_named s bytes

section

variable (s : Settings) (serial : Nat) (c : Catalog) (files : List (List UInt8))
  (schedule : List Nat)

theorem inv_ofFiles : (Batch.ofFiles s c files).Inv serial c (files.map (outcomeOf s)) := by
  rw [ofFiles_eq]
  exact .init serial c _

theorem inv_done :
    (Batch.done s serial c files schedule).Inv serial c (files.map (outcomeOf s)) :=
  (inv_ofFiles s serial c files).run named_of_mem _

/-- A batch ends with a result for each of its reads. -/
theorem readings_done :
    (Batch.done s serial c files schedule).readings =
      (readAll s serial c files schedule).2.map .ended := by
  have hs : ∀ j < (files.map (outcomeOf s)).length,
      2 ≤ (schedule ++ Batch.inOrder files.length).count j := fun j hj => by
    rw [List.length_map] at hj
    rw [List.count_append, Batch.count_inOrder, if_pos hj]
    exact Nat.le_add_left ..
  obtain ⟨rs, hrs⟩ := (inv_ofFiles s serial c files).ended hs
  have : (readAll s serial c files schedule).2 = rs := by
    rw [readAll]
    dsimp only
    rw [hrs, List.filterMap_map]
    exact List.filterMap_some ..
  rw [this, Batch.done, hrs]

theorem catalog_done :
    (Batch.done s serial c files schedule).catalog = (readAll s serial c files schedule).1 :=
  rfl

/-- A schedule that has two steps of each read leaves none over. -/
theorem done_of_complete (h : ∀ j < files.length, 2 ≤ schedule.count j) :
    Batch.done s serial c files schedule =
      (Batch.ofFiles s c files).run serial schedule := by
  have hs : ∀ j < (files.map (outcomeOf s)).length, 2 ≤ schedule.count j := by
    rwa [List.length_map]
  obtain ⟨rs, hrs⟩ := (inv_ofFiles s serial c files).ended hs
  rw [Batch.done, Batch.run, List.foldl_append]
  exact Batch.run_of_ended hrs _

theorem readAll_length : (readAll s serial c files schedule).2.length = files.length := by
  have := (inv_done s serial c files schedule).length
  rwa [readings_done, List.length_map, List.length_map] at this

/-- **A batch publishes the classes that it returns.** -/
theorem readAll_grows :
    c.Grows ((readAll s serial c files schedule).2.flatMap published)
      (readAll s serial c files schedule).1 := by
  have := (inv_done s serial c files schedule).grows
  rwa [Batch.published, readings_done, List.flatMap_map] at this

end

variable {s : Settings} {serial : Nat} {files : List (List UInt8)} {schedule : List Nat}
  {bytes : List UInt8} {a : String}

/-- Each file has a result that it and the catalog account for. -/
theorem readAll_stands (serial : Nat) (c : Catalog) (schedule : List Nat)
    (h : files[i]? = some bytes) :
    ∃ r, (readAll s serial c files schedule).2[i]? = some r ∧
      (Reading.ended r).Stands (serial + i) (outcomeOf s bytes)
        (readAll s serial c files schedule).1 := by
  have hi : i < (readAll s serial c files schedule).2.length := by
    rw [readAll_length]
    exact (List.getElem?_eq_some_iff.1 h).1
  have hr := List.getElem?_eq_getElem hi
  refine ⟨_, hr, (inv_done s serial c files schedule).stands ?_ ?_⟩
  · rw [List.getElem?_map, h]; rfl
  · rw [readings_done, List.getElem?_map, hr]; rfl

theorem readAll_contains :
    (readAll s serial c files schedule).1.contains a ↔
      c.contains a ∨ ∃ bytes ∈ files, (outcomeOf s bytes).Names a := by
  rw [← catalog_done, (inv_done s serial c files schedule).contains]
  refine or_congr_right ⟨?_, ?_⟩
  · rintro ⟨i, o, r, ho, -, -, ha⟩
    obtain ⟨bytes, hb, rfl⟩ := List.mem_map.1 (List.mem_of_getElem? ho)
    exact ⟨bytes, hb, ha⟩
  · rintro ⟨bytes, hb, ha⟩
    obtain ⟨i, hi⟩ := List.mem_iff_getElem?.1 hb
    obtain ⟨r, hr, -⟩ := readAll_stands (s := s) serial c schedule hi
    refine ⟨i, _, .ended r, ?_, ?_, Nat.two_pos, ha⟩
    · rw [List.getElem?_map, hi]; rfl
    · rw [readings_done, List.getElem?_map, hr]; rfl

/-- A class that is returned is that of its file, with the serial number of its
    place. -/
theorem readAll_ok {e : Entry} (hr : (readAll s serial c files schedule).2[i]? = some (.ok e)) :
    ∃ bytes, files[i]? = some bytes ∧ (outcomeOf s bytes).result = .ok e.model ∧
      e.serial = serial + i := by
  have hi : i < files.length := by
    rw [← readAll_length s serial c files schedule]
    exact (List.getElem?_eq_some_iff.1 hr).1
  refine ⟨files[i], List.getElem?_eq_getElem hi, ?_⟩
  obtain ⟨r, hr', hst⟩ := readAll_stands (s := s) serial c schedule (List.getElem?_eq_getElem hi)
  rw [hr] at hr'
  cases hr'
  cases hst with
  | new h => exact ⟨h, rfl⟩

theorem readAll_serial {e : Entry}
    (he : e ∈ (readAll s serial c files schedule).2.flatMap published) :
    serial ≤ e.serial ∧ e.serial < serial + files.length := by
  obtain ⟨r, hr, he⟩ := List.mem_flatMap.1 he
  obtain ⟨i, hi⟩ := List.mem_iff_getElem?.1 hr
  cases r with
  | error => cases he
  | ok d =>
    cases List.mem_singleton.1 he
    obtain ⟨bytes, hb, -, hs⟩ := readAll_ok hi
    have hlt : i < files.length := (List.getElem?_eq_some_iff.1 hb).1
    omega

theorem readAll_ordered (s : Settings) (serial : Nat) (c : Catalog) (files : List (List UInt8))
    (schedule : List Nat) :
    ((readAll s serial c files schedule).2.flatMap published).Pairwise
      fun d e => d.serial < e.serial := by
  have hp : ∀ r : Except ReadError Entry, (published r).Pairwise fun d e => d.serial < e.serial
    | .error _ => .nil
    | .ok _ => List.pairwise_singleton _ _
  rw [List.pairwise_flatMap]
  refine ⟨fun r _ => hp r, List.pairwise_iff_getElem.2 fun i j hi hj hij d hd e he => ?_⟩
  have h {i : Nat} {d : Entry} (hi : i < (readAll s serial c files schedule).2.length)
      (hd : d ∈ published (readAll s serial c files schedule).2[i]) : d.serial = serial + i := by
    cases hr : (readAll s serial c files schedule).2[i] with
    | error => rw [hr] at hd; cases hd
    | ok d' =>
      rw [hr] at hd
      cases List.mem_singleton.1 hd
      obtain ⟨-, -, -, hs⟩ := readAll_ok (List.getElem?_eq_some_iff.2 ⟨hi, hr⟩)
      exact hs
  rw [h hi hd, h hj he]
  omega

/-- What is published under a name that was free is what one of the reads
    returned. -/
theorem readAll_resolve {e : Entry} (hc : c.resolve? a = none)
    (he : (readAll s serial c files schedule).1.resolve? a = some e) :
    e.qualifiedName = Name.qualified a ∧
      ∃ i : Nat, (readAll s serial c files schedule).2[i]? = some (.ok e) := by
  rcases (readAll_grows s serial c files schedule).resolve.1 he with h | ⟨he, ha⟩
  · rw [hc] at h; cases h
  · obtain ⟨r, hr, he⟩ := List.mem_flatMap.1 he
    obtain ⟨i, hi⟩ := List.mem_iff_getElem?.1 hr
    cases r with
    | error => cases he
    | ok d =>
      cases List.mem_singleton.1 he
      exact ⟨ha, i, hi⟩

/-- A file that fails has no part in what the others come to, nor in what is
    published. -/
theorem readAll_set {bytes' : List UInt8} {e e' : ReadError} (hi : files[i]? = some bytes)
    (he : (outcomeOf s bytes).result = .error e) (he' : (outcomeOf s bytes').result = .error e') :
    (∀ j, j ≠ i → (readAll s serial c (files.set i bytes') schedule).2[j]? =
        (readAll s serial c files schedule).2[j]?) ∧
      ∀ a, (readAll s serial c (files.set i bytes') schedule).1.resolve? a =
        (readAll s serial c files schedule).1.resolve? a := by
  have hlt := (List.getElem?_eq_some_iff.1 hi).1
  have hos : ∀ j, j ≠ i → ((files.set i bytes').map (outcomeOf s))[j]? =
      (files.map (outcomeOf s))[j]? := fun j hj => by
    rw [List.getElem?_map, List.getElem?_map, List.getElem?_set_ne hj.symm]
  have hf : ∀ o, ((files.set i bytes').map (outcomeOf s))[i]? = some o →
      ∃ e, o.result = .error e := fun o ho => by
    rw [List.getElem?_map, List.getElem?_set_self hlt] at ho
    cases ho
    exact ⟨e', he'⟩
  have hf' : ∀ o, (files.map (outcomeOf s))[i]? = some o → ∃ e, o.result = .error e :=
    fun o ho => by
      rw [List.getElem?_map, hi] at ho
      cases ho
      exact ⟨e, he⟩
  have h₀ : (Batch.ofFiles s c (files.set i bytes')).Alike i (Batch.ofFiles s c files) := by
    refine ⟨fun {j} hj => ?_, fun _ => rfl⟩
    rw [ofFiles_eq, ofFiles_eq]
    simp only [List.getElem?_map, List.getElem?_set_ne hj.symm]
  have h := h₀.run named_of_mem named_of_mem hos hf hf'
    (schedule ++ Batch.inOrder files.length) (inv_ofFiles s serial c _) (inv_ofFiles s serial c _)
  have hd : Batch.done s serial c (files.set i bytes') schedule =
      (Batch.ofFiles s c (files.set i bytes')).run serial
        (schedule ++ Batch.inOrder files.length) := by
    rw [Batch.done, List.length_set]
  rw [← hd, ← Batch.done] at h
  refine ⟨fun j hj => ?_, h.resolve⟩
  have hu := h.readings hj
  rw [readings_done, readings_done, List.getElem?_map, List.getElem?_map, Option.map_map,
    Option.map_map] at hu
  exact Option.map_injective (fun _ _ h => Reading.ended.inj h) hu

end ClassCatalog.ClassFile
