/-
  Qualified names and their packages.

  * `Parts`: how a qualified name is made of a package and a nested name;
  * `parts_of_split`, `parts_of_split_eq_none`: so it is cut;
  * `qualified_inj`: no two names in internal form have one qualified form.
-/
import ClassCatalog.Name
import Mathlib.Tactic.Common

namespace ClassCatalog.Name

theorem toList_qualified (name : String) :
    (qualified name).toList = name.toList.map fun c => if c = '/' then '.' else c := by
  rw [qualified, String.toList_ofList]

/-- A qualified name is its own qualified form. -/
@[simp] theorem qualified_qualified (name : String) :
    qualified (qualified name) = qualified name := by
  rw [qualified, toList_qualified, List.map_map, qualified]
  congr 1
  refine List.map_congr_left fun c _ => ?_
  by_cases h : c = '/' <;> simp [h]

/-- A name in internal form is known by its qualified form. -/
theorem qualified_inj {c c' : String} (hc : '.' ∉ c.toList) (hc' : '.' ∉ c'.toList)
    (h : qualified c = qualified c') : c = c' := by
  have hback (c : String) (hc : '.' ∉ c.toList) :
      ((qualified c).toList.map fun x => if x = '.' then '/' else x) = c.toList := by
    rw [toList_qualified, List.map_map, List.map_congr_left (g := id), List.map_id]
    intro x hx
    by_cases hs : x = '/'
    · simp [hs]
    · have hd : x ≠ '.' := fun hd => hc (hd ▸ hx)
      simp [hs, hd]
  apply String.toList_injective
  rw [← hback c hc, ← hback c' hc', h]

theorem splitLast_eq_none_iff (cs : List Char) : splitLast cs = none ↔ '.' ∉ cs := by
  induction cs with
  | nil => simp [splitLast]
  | cons c cs ih =>
    rw [splitLast, List.mem_cons, not_or, ← ih]
    cases h : splitLast cs with
    | some p => simp
    | none => by_cases hc : c = '.' <;> simp [hc, eq_comm]

/-- A class has no package iff its name has no separator of either form. -/
theorem split_qualified_eq_none_iff (name : String) :
    split (qualified name) = none ↔ '/' ∉ name.toList ∧ '.' ∉ name.toList := by
  rw [split, Option.map_eq_none_iff, splitLast_eq_none_iff, toList_qualified, List.mem_map]
  constructor
  · intro h
    exact ⟨fun h' => h ⟨_, h', rfl⟩, fun h' => h ⟨_, h', rfl⟩⟩
  · rintro ⟨h₁, h₂⟩ ⟨c, hc, h⟩
    split_ifs at h with h'
    · exact h₁ (h' ▸ hc)
    · exact h₂ (h ▸ hc)

/-- A qualified name has no separator of the internal form. -/
theorem slash_not_mem_qualified (name : String) : '/' ∉ (qualified name).toList := by
  rw [toList_qualified, List.mem_map]
  rintro ⟨c, -, hc⟩
  split_ifs at hc with h
  · cases hc
  · exact h hc

theorem splitLast_eq_some {cs package nested : List Char}
    (h : splitLast cs = some (package, nested)) : cs = package ++ '.' :: nested ∧ '.' ∉ nested := by
  induction cs generalizing package with
  | nil => cases h
  | cons c cs ih =>
    rw [splitLast] at h
    cases hs : splitLast cs with
    | some p =>
      rw [hs] at h
      cases h
      obtain ⟨h₁, h₂⟩ := ih hs
      exact ⟨congrArg (c :: ·) h₁, h₂⟩
    | none =>
      rw [hs] at h
      dsimp only at h
      split_ifs at h with hc
      cases h
      exact ⟨by rw [hc, List.nil_append], (splitLast_eq_none_iff nested).1 hs⟩

theorem split_eq_some {name package nested : String} (h : split name = some (package, nested)) :
    name = package ++ "." ++ nested ∧ '.' ∉ nested.toList := by
  obtain ⟨⟨p, n⟩, hs, heq⟩ := Option.map_eq_some_iff.1 h
  cases heq
  obtain ⟨hjoin, hplain⟩ := splitLast_eq_some hs
  refine ⟨String.toList_injective ?_, by rwa [String.toList_ofList]⟩
  simp [hjoin]

/-- The package and the nested name are what a qualified name is made of; without a
    package there is only the nested name. -/
structure Parts (qualified package nested : String) : Prop where
  dotless : '.' ∉ nested.toList
  slashless : '/' ∉ nested.toList
  joined : '.' ∈ qualified.toList → qualified = package ++ "." ++ nested
  unpackaged : '.' ∉ qualified.toList → package = "" ∧ nested = qualified

theorem parts_of_split {name package nested : String}
    (h : split (qualified name) = some (package, nested)) :
    Parts (qualified name) package nested := by
  obtain ⟨hjoin, hdot⟩ := split_eq_some h
  refine ⟨hdot, fun hslash => slash_not_mem_qualified name ?_, fun _ => hjoin, fun hn => ?_⟩
  · rw [hjoin, String.toList_append]
    exact List.mem_append_right _ hslash
  · refine absurd ?_ hn
    rw [hjoin]
    simp

theorem parts_of_split_eq_none {name : String} (h : split (qualified name) = none) :
    Parts (qualified name) "" (qualified name) := by
  have hdot : '.' ∉ (qualified name).toList := by
    rw [split, Option.map_eq_none_iff] at h
    exact (splitLast_eq_none_iff _).1 h
  exact ⟨hdot, slash_not_mem_qualified name, fun hd => absurd hd hdot, fun _ => ⟨rfl, rfl⟩⟩

end ClassCatalog.Name
