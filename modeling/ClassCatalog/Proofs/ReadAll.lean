/-
  The results of a batch of class files, read side by side.

  `readAll_any_schedule`: which of the files of one class publishes it may
  depend on the schedule.  That one of them does, what the others come to and
  what the catalog then has do not: all of it can be told from lone reads of
  the files.
-/
import ClassCatalog.Proofs.Schedule

namespace ClassCatalog.ClassFile

/-! ## Lone reads -/

/-- The read of a file alone, into an empty catalog. -/
def alone (s : Settings) (bytes : List UInt8) : Catalog × Except ReadError Entry :=
  read s 0 .empty bytes

/-- Read alone, the file builds the class `model`, which is named `a`. -/
def Builds (s : Settings) (bytes : List UInt8) (a : String) (model : ClassModel) : Prop :=
  (alone s bytes).2 = .ok ⟨0, model⟩ ∧ model.qualifiedName = Name.qualified a

variable {s : Settings} {bytes : List UInt8} {a : String} {model : ClassModel} {e : ReadError}

theorem alone_error : (alone s bytes).2 = .error e ↔ (outcomeOf s bytes).result = .error e := by
  rw [alone, read_alone]
  cases (outcomeOf s bytes).result <;> simp [Except.map]

theorem builds_iff : Builds s bytes a model ↔
    (outcomeOf s bytes).result = .ok model ∧ model.qualifiedName = Name.qualified a := by
  rw [Builds, alone, read_alone]
  cases (outcomeOf s bytes).result <;> simp [Except.map]

theorem contains_alone : (alone s bytes).1.contains a ↔ (outcomeOf s bytes).Names a := by
  have h := Outcome.publish_cases (outcomeOf_named s bytes)
    ((outcomeOf s bytes).register_holds .empty) 0
  have hr := (outcomeOf s bytes).contains_register .empty a
  rw [← h.contains] at hr
  refine hr.trans (or_iff_right ?_)
  rw [Catalog.contains_eq, Catalog.number?_empty]
  exact Bool.false_ne_true

theorem resolve?_alone :
    ((alone s bytes).1.resolve? a).isSome ↔ ∃ model, Builds s bytes a model := by
  have hg := read_grows s 0 .empty bytes
  rw [Option.isSome_iff_exists]
  constructor
  · rintro ⟨d, hd⟩
    rcases hg.resolve.1 hd with h | ⟨hm, hq⟩
    · cases h
    · rw [read_alone] at hm
      cases hr : (outcomeOf s bytes).result with
      | error => rw [hr] at hm; cases hm
      | ok m =>
        rw [hr] at hm
        cases List.mem_singleton.1 hm
        exact ⟨m, builds_iff.2 ⟨hr, hq⟩⟩
  · rintro ⟨model, hb, hq⟩
    refine ⟨⟨0, model⟩, hg.resolve.2 (Or.inr ⟨?_, hq⟩)⟩
    rw [← alone, hb]
    exact List.mem_singleton_self _

/-! ## Batches -/

section

variable {serial i j : Nat} {c : Catalog} {files : List (List UInt8)} {schedule : List Nat}

theorem mem_published {rs : List (Except ReadError Entry)} {d : Entry}
    (h : rs[i]? = some (.ok d)) : d ∈ rs.flatMap published :=
  List.mem_flatMap.2 ⟨_, List.mem_of_getElem? h, List.mem_singleton_self d⟩

/-- A file that builds a class publishes it, or comes too late. -/
theorem readAll_builds (serial : Nat) (c : Catalog) (schedule : List Nat)
    (hi : files[i]? = some bytes) (hb : Builds s bytes a model) :
    (readAll s serial c files schedule).2[i]? = some (.ok ⟨serial + i, model⟩) ∨
      (readAll s serial c files schedule).2[i]? =
          some (.error (.build (.alreadyBuilt (Name.qualified a)))) ∧
        ((readAll s serial c files schedule).1.resolve? a).isSome := by
  obtain ⟨r, hr, hst⟩ := readAll_stands serial c schedule hi
  obtain ⟨hb, hq⟩ := builds_iff.1 hb
  cases hst with
  | failed h => rw [h] at hb; cases hb
  | new h => rw [h] at hb; cases hb; exact Or.inl hr
  | late h hd =>
    rw [h] at hb
    cases hb
    rw [hq, Catalog.resolve?_congr (Name.qualified_qualified a)] at hd
    rw [hq] at hr
    exact Or.inr ⟨hr, by rw [hd]; rfl⟩

theorem readAll_error (hi : files[i]? = some bytes) (he : (alone s bytes).2 = .error e) :
    (readAll s serial c files schedule).2[i]? = some (.error e) := by
  obtain ⟨r, hr, hst⟩ := readAll_stands serial c schedule hi
  rw [alone_error] at he
  cases hst with
  | failed h => rw [h] at he; cases he; exact hr
  | new h => rw [h] at he; cases he
  | late h => rw [h] at he; cases he

/-- A class that is returned was built by its file. -/
theorem builds_of_ok {d : Entry} (hr : (readAll s serial c files schedule).2[i]? = some (.ok d))
    (hq : d.qualifiedName = Name.qualified a) :
    ∃ bytes, files[i]? = some bytes ∧ Builds s bytes a d.model ∧ d.serial = serial + i := by
  obtain ⟨bytes, hb, hm, hs⟩ := readAll_ok hr
  exact ⟨bytes, hb, builds_iff.2 ⟨hm, hq⟩, hs⟩

/-- Of the files of one class no two publish it. -/
theorem readAll_once {d d' : Entry}
    (hd : (readAll s serial c files schedule).2[i]? = some (.ok d))
    (hd' : (readAll s serial c files schedule).2[j]? = some (.ok d'))
    (hq : d.qualifiedName = d'.qualifiedName) : i = j := by
  have hg := readAll_grows s serial c files schedule
  have heq := List.inj_on_of_nodup_map hg.once (mem_published hd) (mem_published hd') hq
  subst heq
  have hn : d.qualifiedName = Name.qualified d.qualifiedName :=
    (hg.named d (mem_published hd)).symm
  obtain ⟨-, -, -, hi⟩ := builds_of_ok hd hn
  obtain ⟨-, -, -, hj⟩ := builds_of_ok hd' hn
  omega

/-- A name that was free is published once if a file builds a class of that
    name. -/
theorem readAll_free (serial : Nat) (schedule : List Nat) (hc : c.resolve? a = none)
    (hb : ∃ bytes ∈ files, ∃ model, Builds s bytes a model) :
    ∃ (i : Nat) (bytes : List UInt8) (model : ClassModel),
      files[i]? = some bytes ∧ Builds s bytes a model ∧
      (readAll s serial c files schedule).2[i]? = some (.ok ⟨serial + i, model⟩) ∧
      (readAll s serial c files schedule).1.resolve? a = some ⟨serial + i, model⟩ ∧
      ∀ (j : Nat) bytes' model', j ≠ i → files[j]? = some bytes' → Builds s bytes' a model' →
        (readAll s serial c files schedule).2[j]? =
          some (.error (.build (.alreadyBuilt (Name.qualified a)))) := by
  obtain ⟨bytes₀, hm, model₀, hb₀⟩ := hb
  obtain ⟨i₀, hi₀⟩ := List.mem_iff_getElem?.1 hm
  -- whether that file publishes or comes too late, the name resolves at the end
  have hres : ∃ d, (readAll s serial c files schedule).1.resolve? a = some d := by
    rcases readAll_builds serial c schedule hi₀ hb₀ with hr | ⟨-, hs⟩
    · exact ⟨⟨serial + i₀, model₀⟩, (readAll_grows s serial c files schedule).resolve.2
        (Or.inr ⟨mem_published hr, hb₀.2⟩)⟩
    · exact Option.isSome_iff_exists.1 hs
  obtain ⟨⟨n, model⟩, hd⟩ := hres
  obtain ⟨hq, i, hi⟩ := readAll_resolve hc hd
  obtain ⟨bytes, hbytes, hb, hn⟩ := builds_of_ok hi hq
  cases hn
  refine ⟨i, bytes, model, hbytes, hb, hi, hd, fun j bytes' model' hj hf hb' => ?_⟩
  rcases readAll_builds serial c schedule hf hb' with hr | ⟨hr, -⟩
  · exact absurd (readAll_once hr hi (hb'.2.trans hb.2.symm)) hj
  · exact hr

/-- A name that was taken keeps its class, and no file publishes another. -/
theorem readAll_taken (serial : Nat) (files : List (List UInt8)) (schedule : List Nat)
    {old : Entry} (hc : c.resolve? a = some old) :
    (readAll s serial c files schedule).1.resolve? a = some old ∧
      ∀ (j : Nat) bytes model, files[j]? = some bytes → Builds s bytes a model →
        (readAll s serial c files schedule).2[j]? =
          some (.error (.build (.alreadyBuilt (Name.qualified a)))) := by
  have hg := readAll_grows s serial c files schedule
  refine ⟨hg.resolve_some hc, fun j bytes model hj hb => ?_⟩
  rcases readAll_builds serial c schedule hj hb with hr | ⟨hr, -⟩
  · have := hg.fresh _ (mem_published hr)
    rw [show Entry.qualifiedName ⟨serial + j, model⟩ = Name.qualified a from hb.2,
      Catalog.resolve?_congr (Name.qualified_qualified a), hc] at this
    cases this
  · exact hr

/-- The names that resolve at the end are told by the files. -/
theorem readAll_resolved :
    ((readAll s serial c files schedule).1.resolve? a).isSome ↔
      (c.resolve? a).isSome ∨ ∃ bytes ∈ files, ((alone s bytes).1.resolve? a).isSome := by
  simp only [resolve?_alone]
  cases hc : c.resolve? a with
  | some old => simp [(readAll_taken (s := s) serial files schedule hc).1]
  | none =>
    rw [Option.isSome_none, or_iff_right Bool.false_ne_true]
    refine ⟨fun h => ?_, fun h => ?_⟩
    · obtain ⟨d, hd⟩ := Option.isSome_iff_exists.1 h
      obtain ⟨hq, i, hi⟩ := readAll_resolve hc hd
      obtain ⟨bytes, hb, hm, -⟩ := builds_of_ok hi hq
      exact ⟨bytes, List.mem_of_getElem? hb, d.model, hm⟩
    · obtain ⟨i, bytes, model, -, -, -, hr, -⟩ := readAll_free serial schedule hc h
      rw [hr]; rfl

end

/-- **A batch under any schedule.**  There is a result for each file, in order.
    A file that fails alone fails alike, and has no part in what the others come
    to.  A name that was free is published by exactly one of the files that
    build it; a name that was taken keeps its class.  What is registered and
    what is published at the end does not depend on the schedule. -/
theorem readAll_any_schedule (s : Settings) (serial : Nat) (c : Catalog)
    (files : List (List UInt8)) (schedule : List Nat) :
    let done := readAll s serial c files schedule
    done.2.length = files.length ∧
    (∀ (i : Nat) bytes e, files[i]? = some bytes → (alone s bytes).2 = .error e →
      done.2[i]? = some (.error e) ∧
      ∀ bytes' e', (alone s bytes').2 = .error e' →
        let done' := readAll s serial c (files.set i bytes') schedule
        (∀ j, j ≠ i → done'.2[j]? = done.2[j]?) ∧ ∀ a, done'.1.resolve? a = done.1.resolve? a) ∧
    (∀ a, c.resolve? a = none → (∃ bytes ∈ files, ∃ model, Builds s bytes a model) →
      ∃ (i : Nat) (bytes : List UInt8) (model : ClassModel),
        files[i]? = some bytes ∧ Builds s bytes a model ∧
        done.2[i]? = some (.ok ⟨serial + i, model⟩) ∧
        done.1.resolve? a = some ⟨serial + i, model⟩ ∧
        ∀ (j : Nat) bytes' model', j ≠ i → files[j]? = some bytes' → Builds s bytes' a model' →
          done.2[j]? = some (.error (.build (.alreadyBuilt (Name.qualified a))))) ∧
    (∀ a old, c.resolve? a = some old →
      done.1.resolve? a = some old ∧
      ∀ (j : Nat) bytes model, files[j]? = some bytes → Builds s bytes a model →
        done.2[j]? = some (.error (.build (.alreadyBuilt (Name.qualified a))))) ∧
    (∀ a, done.1.contains a ↔ c.contains a ∨ ∃ bytes ∈ files, (alone s bytes).1.contains a) ∧
    ∀ a, (done.1.resolve? a).isSome ↔
      (c.resolve? a).isSome ∨ ∃ bytes ∈ files, ((alone s bytes).1.resolve? a).isSome := by
  refine ⟨readAll_length s serial c files schedule, fun i bytes e hi he => ⟨readAll_error hi he,
    fun bytes' e' he' => readAll_set hi (alone_error.1 he) (alone_error.1 he')⟩,
    fun a => readAll_free serial schedule,
    fun a old => readAll_taken serial files schedule, fun a => ?_, fun a => readAll_resolved⟩
  rw [readAll_contains]
  simp only [contains_alone]

/-- The file of a class `a/B` without members. -/
def smallFile : List UInt8 :=
  [0xCA, 0xFE, 0xBA, 0xBE, 0, 0, 0, 52, 0, 3, 1, 0, 3, 97, 47, 66, 7, 0, 1, 0, 33, 0, 2, 0, 0,
    0, 0, 0, 0, 0, 0, 0, 0]

theorem smallFile_builds : ∃ model, Builds {} smallFile "a.B" model := ⟨_, rfl, rfl⟩

/-- Two files of one class with a broken file between them, where the header of
    the first comes first and the end of the last: one of the two is published.
    The same file comes too late in a catalog that has the class. -/
theorem readAll_small_files :
    let files := [smallFile, [], smallFile]
    let done := readAll {} 0 .empty files [0, 2, 2, 1]
    done.2.length = 3 ∧ done.2[1]? = some (.error (.malformed .endOfInput)) ∧
      (∃ i model, done.1.resolve? "a.B" = some ⟨i, model⟩ ∧ done.2[i]? = some (.ok ⟨i, model⟩)) ∧
      (readAll {} 1 (alone {} smallFile).1 [smallFile] []).2[0]? =
        some (.error (.build (.alreadyBuilt "a.B"))) := by
  obtain ⟨hl, hf, hc, -⟩ := readAll_any_schedule {} 0 .empty [smallFile, [], smallFile] [0, 2, 2, 1]
  obtain ⟨-, -, -, ht, -⟩ := readAll_any_schedule {} 1 (alone {} smallFile).1 [smallFile] []
  obtain ⟨model, hb⟩ := smallFile_builds
  refine ⟨hl, (hf 1 [] _ rfl rfl).1, ?_, (ht "a.B" _ rfl).2 0 smallFile model rfl hb⟩
  obtain ⟨i, -, model, -, -, hr, hd, -⟩ := hc "a.B" rfl ⟨smallFile, List.mem_cons_self, model, hb⟩
  rw [Nat.zero_add] at hr hd
  exact ⟨i, model, hd, hr⟩

end ClassCatalog.ClassFile
