/-
  Look-ups in tables after `put` and `erase`, tables of different keys
  (`ofPuts_of_nodup`), and what a sequence of `put`s leaves behind: keys where they
  were put first (`keys_ofPuts`), values as they were put last (`get?_ofPuts`).
-/
import ClassCatalog.Table
import Mathlib.Data.List.Basic
import Mathlib.Data.List.Induction

namespace ClassCatalog.Table

variable {κ α : Type} [DecidableEq κ]

@[simp] theorem get?_nil (k : κ) : get? ([] : Table κ α) k = none := rfl

theorem get?_cons (k' : κ) (v : α) (t : Table κ α) (k : κ) :
    get? ((k', v) :: t) k = if k = k' then some v else t.get? k := by
  unfold get?; rw [List.lookup_cons]
  by_cases h : k = k'
  · simp [h]
  · rw [beq_false_of_ne h, if_neg h]

theorem get?_put (t : Table κ α) (k : κ) (v : α) (k' : κ) :
    (t.put k v).get? k' = if k' = k then some v else t.get? k' := by
  induction t with
  | nil => rw [put, get?_cons]
  | cons e t ih =>
    obtain ⟨k₀, v₀⟩ := e
    rw [put]
    split_ifs with h₁ h₂ h₂
    · rw [get?_cons, if_pos h₂]
    · rw [get?_cons, get?_cons, if_neg h₂, if_neg (h₁ ▸ h₂)]
    · rw [get?_cons, ih, if_pos h₂, if_neg fun h => h₁ (h.symm.trans h₂)]
    · rw [get?_cons, get?_cons, ih, if_neg h₂]

@[simp] theorem get?_put_self (t : Table κ α) (k : κ) (v : α) : (t.put k v).get? k = some v := by
  rw [get?_put, if_pos rfl]

theorem get?_put_ne (t : Table κ α) {k k' : κ} (v : α) (h : k' ≠ k) :
    (t.put k v).get? k' = t.get? k' := by
  rw [get?_put, if_neg h]

theorem put_put (t : Table κ α) (k : κ) (v w : α) : (t.put k v).put k w = t.put k w := by
  induction t with
  | nil => simp [put]
  | cons e t ih =>
    obtain ⟨k₀, v₀⟩ := e
    rw [put, put]
    split_ifs with h
    · rw [put, if_pos rfl]
    · rw [put, if_neg h, ih]

/-- What is there already is put in vain. -/
theorem put_of_get? {t : Table κ α} {k : κ} {v : α} (h : t.get? k = some v) : t.put k v = t := by
  induction t with
  | nil => cases h
  | cons e t ih =>
    obtain ⟨k₀, v₀⟩ := e
    rw [get?_cons] at h
    rw [put]
    split_ifs at h with h₀
    · rw [if_pos h₀.symm, h₀, Option.some.inj h]
    · rw [if_neg (Ne.symm h₀), ih h]

theorem get?_erase (t : Table κ α) (k k' : κ) :
    (t.erase k).get? k' = if k' = k then none else t.get? k' := by
  induction t with
  | nil => simp [erase]
  | cons e t ih =>
    obtain ⟨k₀, v₀⟩ := e
    unfold erase at ih ⊢
    by_cases h₀ : k₀ = k
    · rw [List.filter_cons_of_neg (by simp [h₀]), ih, get?_cons]
      split_ifs with h₁ h₂
      · rfl
      · exact absurd (h₂.trans h₀) h₁
      · rfl
    · rw [List.filter_cons_of_pos (by simp [h₀]), get?_cons, get?_cons, ih]
      split_ifs with h₁ h₂
      · exact absurd (h₁.symm.trans h₂) h₀
      · rfl
      · rfl
      · rfl

@[simp] theorem get?_erase_self (t : Table κ α) (k : κ) : (t.erase k).get? k = none := by
  rw [get?_erase, if_pos rfl]

theorem get?_erase_ne (t : Table κ α) {k k' : κ} (h : k' ≠ k) :
    (t.erase k).get? k' = t.get? k' := by
  rw [get?_erase, if_neg h]

/-- A new key is put at the end. -/
theorem put_of_not_mem {t : Table κ α} {k : κ} (h : k ∉ t.keys) (v : α) :
    t.put k v = t ++ [(k, v)] := by
  induction t with
  | nil => rfl
  | cons e t ih =>
    obtain ⟨hne, hnot⟩ := not_or.1 (List.mem_cons.not.1 h)
    rw [put, if_neg (Ne.symm hne), ih hnot, List.cons_append]

/-- Different keys are put one after the other. -/
theorem ofPuts_of_nodup {t : Table κ α} (h : t.keys.Nodup) : ofPuts t = t := by
  have key : ∀ done : Table κ α, (done ++ t).keys.Nodup →
      t.foldl (fun t e => t.put e.1 e.2) done = done ++ t := by
    clear h
    induction t with
    | nil => exact fun done _ => (List.append_nil done).symm
    | cons e t ih =>
      intro done hdone
      have hnew : e.1 ∉ done.keys := by
        rw [keys, List.map_append, List.map_cons] at hdone
        exact fun hmem => (List.nodup_append.1 hdone).2.2 _ hmem _ List.mem_cons_self rfl
      rw [List.append_cons] at hdone ⊢
      rw [List.foldl_cons, put_of_not_mem hnew]
      exact ih _ hdone
  exact key [] h

theorem isSome_get?_iff {t : Table κ α} {k : κ} : (t.get? k).isSome ↔ k ∈ t.keys := by
  induction t with
  | nil => simp [keys]
  | cons e t ih =>
    rw [get?_cons, keys, List.map_cons, List.mem_cons]
    split_ifs with h
    · exact ⟨fun _ => Or.inl h, fun _ => rfl⟩
    · exact ih.trans ⟨Or.inr, fun hk => hk.resolve_left h⟩

/-- What is found under a key depends on the entries of that key only. -/
theorem get?_filter (t : Table κ α) (k : κ) : get? (t.filter (·.1 = k)) k = t.get? k := by
  induction t with
  | nil => rfl
  | cons e t ih =>
    obtain ⟨k', v⟩ := e
    by_cases h : k' = k
    · simp [h, get?_cons]
    · simp [h, get?_cons, Ne.symm h, ih]

theorem mem_of_get? {t : Table κ α} {k : κ} {v : α} (h : t.get? k = some v) : (k, v) ∈ t := by
  obtain ⟨before, after, rfl, -⟩ := List.lookup_eq_some_iff.1 h
  simp

/-- Where keys differ, each entry can be looked up. -/
theorem get?_of_mem {t : Table κ α} (hn : t.keys.Nodup) {k : κ} {v : α} (h : (k, v) ∈ t) :
    t.get? k = some v := by
  induction t with
  | nil => cases h
  | cons e t ih =>
    obtain ⟨hnot, hn⟩ := List.nodup_cons.1 hn
    rw [get?_cons]
    rcases List.mem_cons.1 h with rfl | h
    · exact if_pos rfl
    · have hne : k ≠ e.1 := fun hk => hnot (hk ▸ List.mem_map_of_mem (f := Prod.fst) h)
      rw [if_neg hne, ih hn h]

/-! ## Tables from a sequence of `put`s -/

/-- A known key keeps its place, a new one comes last. -/
theorem keys_put (t : Table κ α) (k : κ) (v : α) :
    (t.put k v).keys = if k ∈ t.keys then t.keys else t.keys ++ [k] := by
  by_cases h : k ∈ t.keys
  · rw [if_pos h]
    induction t with
    | nil => cases h
    | cons e t ih =>
      rw [put]
      split_ifs with he
      · rw [keys, keys, List.map_cons, List.map_cons, he]
      · exact congrArg (e.1 :: ·) (ih ((List.mem_cons.1 h).resolve_left (Ne.symm he)))
  · rw [if_neg h, put_of_not_mem h, keys, List.map_append]
    rfl

theorem ofPuts_concat (puts : List (κ × α)) (e : κ × α) :
    ofPuts (puts ++ [e]) = (ofPuts puts).put e.1 e.2 := by
  rw [ofPuts, List.foldl_append]
  rfl

/-- Keys stand in the order in which they were put first. -/
theorem keys_ofPuts (puts : List (κ × α)) : (ofPuts puts).keys = (puts.map (·.1)).eraseDups := by
  induction puts using List.reverseRecOn with
  | nil => rfl
  | append_singleton puts e ih =>
    rw [ofPuts_concat, keys_put, ih, List.map_append, List.eraseDups_append, List.map_singleton]
    simp only [List.mem_eraseDups]
    split_ifs with h <;> simp [List.removeAll, List.eraseDups_cons, h]

/-- Each key has one place. -/
theorem nodup_keys_ofPuts (puts : List (κ × α)) : (ofPuts puts).keys.Nodup := by
  induction puts using List.reverseRecOn with
  | nil => exact List.nodup_nil
  | append_singleton puts e ih =>
    rw [ofPuts_concat, keys_put]
    split_ifs with h
    · exact ih
    · refine List.nodup_append.2 ⟨ih, List.pairwise_singleton _ _, fun k hk k' hk' => ?_⟩
      rw [List.mem_singleton.1 hk']
      rintro rfl
      exact h hk

/-- A key has the value that was put last. -/
theorem get?_ofPuts (puts : List (κ × α)) (k : κ) :
    (ofPuts puts).get? k = puts.reverse.lookup k := by
  induction puts using List.reverseRecOn with
  | nil => rfl
  | append_singleton puts e ih =>
    rw [ofPuts_concat, get?_put, List.reverse_append, List.reverse_singleton, List.singleton_append,
      ih]
    exact (get?_cons e.1 e.2 puts.reverse k).symm

theorem get?_ofPuts_eq_some_iff {puts : List (κ × α)} {k : κ} {v : α} :
    (ofPuts puts).get? k = some v ↔
      ∃ before after, puts = before ++ (k, v) :: after ∧ k ∉ after.map (·.1) := by
  rw [get?_ofPuts, List.lookup_eq_some_iff]
  constructor
  · rintro ⟨after, before, hputs, hafter⟩
    refine ⟨before.reverse, after.reverse, ?_, fun hk => ?_⟩
    · rw [← List.reverse_reverse puts, hputs]
      simp
    · obtain ⟨e, he, rfl⟩ := List.mem_map.1 hk
      exact absurd rfl (bne_iff_ne.1 (hafter e (List.mem_reverse.1 he)))
  · rintro ⟨before, after, rfl, hafter⟩
    refine ⟨after.reverse, before.reverse, by simp, fun e he => bne_iff_ne.2 fun hk => hafter ?_⟩
    exact hk ▸ List.mem_map_of_mem (List.mem_reverse.1 he)

end ClassCatalog.Table
