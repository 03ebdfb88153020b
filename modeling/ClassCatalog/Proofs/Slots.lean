/-
  What the operations of a catalog do to its slots.

  * `number?_register`, `resolve?_register`: a registration gives a slot to one
    name and publishes nothing;
  * `publish_eq`, `resolve?_fill`: a class is published in the slot of its name
    iff nothing was published there, and is then what the name resolves to;
  * `Filed`: each slot is found under its name, and its class bears that name.
    Registrations and publications keep a catalog well-filed, and a well-filed
    catalog lists its classes in strictly increasing order of name.
-/
import ClassCatalog.Catalog
import ClassCatalog.Proofs.Name
import Mathlib.Data.String.Basic
import Mathlib.Data.List.Pairwise

namespace ClassCatalog.Catalog

variable {c : Catalog} {a b : String} {k : Nat} {e : Entry}

/-! ## Looking up -/

theorem number?_congr (h : Name.qualified a = Name.qualified b) : c.number? a = c.number? b := by
  rw [number?, number?, h]

theorem resolve?_congr (h : Name.qualified a = Name.qualified b) : c.resolve? a = c.resolve? b := by
  rw [resolve?, resolve?, slot?, slot?, number?_congr h]

/-- The slot of an identity bears its qualified name. -/
theorem slotAt?_of_number? (h : c.number? a = some k) :
    ∃ p?, c.slotAt? k = some ⟨Name.qualified a, p?⟩ := by
  obtain ⟨hk, hn, -⟩ := List.findIdx?_eq_some_iff_getElem.1 h
  refine ⟨c.slots[k].published?, ?_⟩
  rw [slotAt?, List.getElem?_eq_getElem hk, ← eq_of_beq hn]

/-- Two identities that share a slot are forms of one name. -/
theorem qualified_eq_of_number? (ha : c.number? a = some k) (hb : c.number? b = some k) :
    Name.qualified a = Name.qualified b := by
  obtain ⟨p?, hp⟩ := slotAt?_of_number? ha
  obtain ⟨q?, hq⟩ := slotAt?_of_number? hb
  rw [hp, Option.some.injEq, Slot.mk.injEq] at hq
  exact hq.1

theorem resolve?_of_number? (h : c.number? a = some k) :
    c.resolve? a = (c.slotAt? k).bind (·.published?) := by
  rw [resolve?, slot?, h, Option.bind_some]

theorem resolve?_of_number?_none (h : c.number? a = none) : c.resolve? a = none := by
  rw [resolve?, slot?, h]; rfl

theorem contains_eq : c.contains a = (c.number? a).isSome := by
  rw [contains, slot?]
  cases h : c.number? a with
  | none => rfl
  | some k =>
    obtain ⟨p?, hp⟩ := slotAt?_of_number? h
    rw [Option.bind_some, hp]; rfl

@[simp] theorem number?_empty : empty.number? a = none := rfl

@[simp] theorem resolve?_empty : empty.resolve? a = none := rfl

/-! ## Registering -/

theorem register_of_number? (h : c.number? a = some k) : c.register a = (c, k) := by
  rw [register, h]

theorem register_of_number?_none (h : c.number? a = none) :
    c.register a = (⟨c.slots ++ [.pending (Name.qualified a)]⟩, c.slots.length) := by
  rw [register, h]

theorem number?_register (c : Catalog) (a b : String) :
    (c.register a).1.number? b =
      if Name.qualified b = Name.qualified a then some (c.register a).2 else c.number? b := by
  cases h : c.number? a with
  | some k =>
    rw [register_of_number? h]
    split_ifs with hb
    · rw [number?_congr hb, h]
    · rfl
  | none =>
    rw [register_of_number?_none h, number?, List.findIdx?_append, ← number?]
    split_ifs with hb
    · rw [number?_congr hb, h, hb]; simp [Slot.pending]
    · cases c.number? b <;> simp [Slot.pending, Ne.symm hb]

theorem number?_register_self (c : Catalog) (a : String) :
    (c.register a).1.number? a = some (c.register a).2 := by
  rw [number?_register, if_pos rfl]

theorem contains_register (c : Catalog) (a b : String) :
    (c.register a).1.contains b ↔ c.contains b ∨ Name.qualified b = Name.qualified a := by
  rw [contains_eq, contains_eq, number?_register]
  split_ifs with h <;> simp [h]

theorem slotAt?_register {s : Slot} (h : c.slotAt? k = some s) :
    (c.register a).1.slotAt? k = some s := by
  cases ha : c.number? a with
  | some j => rwa [register_of_number? ha]
  | none =>
    rw [register_of_number?_none ha, slotAt?]
    exact List.getElem?_append_left (List.getElem?_eq_some_iff.1 h).1 ▸ h

/-- The slot that a registration adds is pending. -/
theorem slotAt?_register_cases {s : Slot} (h : (c.register a).1.slotAt? k = some s) :
    c.slotAt? k = some s ∨ (c.register a).2 = k ∧ s = .pending (Name.qualified a) := by
  cases ha : c.number? a with
  | some j => rw [register_of_number? ha] at h; exact Or.inl h
  | none =>
    rw [register_of_number?_none ha] at h ⊢
    rw [slotAt?, List.getElem?_append] at h
    split_ifs at h with hk
    · exact Or.inl h
    · obtain ⟨hk', rfl⟩ := List.getElem?_eq_some_iff.1 h
      rw [List.length_singleton] at hk'
      exact Or.inr ⟨show c.slots.length = k by omega, List.getElem_singleton ..⟩

/-- A registration publishes nothing. -/
@[simp] theorem resolve?_register (c : Catalog) (a b : String) :
    (c.register a).1.resolve? b = c.resolve? b := by
  cases hb : c.number? b with
  | some k =>
    have hb' : (c.register a).1.number? b = some k := by
      rw [number?_register]
      split_ifs with h
      · rw [number?_congr h] at hb; rw [register_of_number? hb]
      · exact hb
    obtain ⟨p?, hp⟩ := slotAt?_of_number? hb
    rw [resolve?_of_number? hb', resolve?_of_number? hb, hp, slotAt?_register hp]
  | none =>
    rw [resolve?_of_number?_none hb]
    cases hb' : (c.register a).1.number? b with
    | none => rw [resolve?_of_number?_none hb']
    | some k =>
      rw [number?_register] at hb'
      split_ifs at hb' with h
      · have ha : c.number? a = none := by rw [← number?_congr h, hb]
        rw [resolve?_congr h, resolve?_of_number? (number?_register_self c a)]
        rw [register_of_number?_none ha]; simp [slotAt?, Slot.pending]
      · rw [hb] at hb'; cases hb'

/-! ## Publishing -/

@[simp] theorem number?_fill (c : Catalog) (k : Nat) (e : Entry) (a : String) :
    (c.fill k e).number? a = c.number? a := by
  have h : (c.fill k e).slots.map (·.qualifiedName) = c.slots.map (·.qualifiedName) := by
    refine List.ext_getElem? fun j => ?_
    rw [fill, List.getElem?_map, List.getElem?_map, List.getElem?_modify]
    cases c.slots[j]? <;> by_cases hj : k = j <;> simp [hj]
  have hn : ∀ c : Catalog, c.number? a =
      (c.slots.map (·.qualifiedName)).findIdx? (· == Name.qualified a) := fun c => by
    rw [number?, List.findIdx?_map]; rfl
  rw [hn, hn, h]

@[simp] theorem contains_fill (c : Catalog) (k : Nat) (e : Entry) (a : String) :
    (c.fill k e).contains a = c.contains a := by
  rw [contains_eq, contains_eq, number?_fill]

theorem slotAt?_fill (c : Catalog) (k j : Nat) (e : Entry) :
    (c.fill k e).slotAt? j =
      if k = j then (c.slotAt? j).map fun s => { s with published? := some e }
      else c.slotAt? j := by
  rw [slotAt?, fill, List.getElem?_modify]
  split_ifs
  · rfl
  · exact Option.map_id'

/-- The name of the filled slot resolves to the class, all others to what they
    did. -/
theorem resolve?_fill (h : c.number? a = some k) (e : Entry) (b : String) :
    (c.fill k e).resolve? b =
      if Name.qualified b = Name.qualified a then some e else c.resolve? b := by
  cases hb : c.number? b with
  | none =>
    have hq : ¬ Name.qualified b = Name.qualified a := fun hq => by
      rw [number?_congr hq, h] at hb; cases hb
    rw [if_neg hq, resolve?_of_number?_none hb, resolve?_of_number?_none (by rw [number?_fill, hb])]
  | some j =>
    rw [resolve?_of_number? (by rw [number?_fill, hb]), resolve?_of_number? hb, slotAt?_fill]
    obtain ⟨p?, hp⟩ := slotAt?_of_number? hb
    by_cases hj : k = j
    · subst hj
      rw [if_pos rfl, if_pos (qualified_eq_of_number? hb h), hp]; rfl
    · rw [if_neg hj, if_neg fun hq => hj ?_]
      rw [number?_congr hq, h] at hb
      exact Option.some.inj hb

/-- A class is published in the slot of a name unless one was published there
    before. -/
theorem publish_eq (h : c.number? a = some k) (e : Entry) :
    c.publish (some k) e =
      match c.resolve? a with
      | some _ => .error (.alreadyBuilt (Name.qualified a))
      | none => .ok (c.fill k e) := by
  obtain ⟨p?, hp⟩ := slotAt?_of_number? h
  rw [resolve?_of_number? h, hp, publish, hp]
  cases p? <;> rfl

/-! ## Well-filed catalogs -/

/-- Each slot is found under its name, and its class bears that name. -/
structure Filed (c : Catalog) : Prop where
  found : ∀ {k s}, c.slotAt? k = some s → c.number? s.qualifiedName = some k
  named : ∀ {k s e}, c.slotAt? k = some s → s.published? = some e →
    e.model.qualifiedName = s.qualifiedName

theorem filed_empty : Filed empty := ⟨nofun, nofun⟩

theorem Filed.qualified (hc : c.Filed) {s : Slot} (h : c.slotAt? k = some s) :
    Name.qualified s.qualifiedName = s.qualifiedName := by
  obtain ⟨p?, hp⟩ := slotAt?_of_number? (hc.found h)
  rw [h, Option.some.injEq] at hp
  exact (congrArg Slot.qualifiedName hp).symm

theorem Filed.register (hc : c.Filed) (a : String) : (c.register a).1.Filed := by
  refine ⟨fun {k s} h => ?_, fun {k s e} h he => ?_⟩
  · rcases slotAt?_register_cases h with h | ⟨rfl, rfl⟩
    · rw [number?_register]
      split_ifs with hq
      · have hk := hc.found h
        rw [number?_congr (hq.trans rfl)] at hk
        rw [register_of_number? hk]
      · exact hc.found h
    · rw [number?_register]
      exact if_pos (Name.qualified_qualified a)
  · rcases slotAt?_register_cases h with h | ⟨-, rfl⟩
    · exact hc.named h he
    · cases he

theorem Filed.fill (hc : c.Filed) (h : c.number? a = some k)
    (he : e.model.qualifiedName = Name.qualified a) : (c.fill k e).Filed := by
  refine ⟨fun {j s} hs => ?_, fun {j s e'} hs he' => ?_⟩ <;> rw [slotAt?_fill] at hs
  · rw [number?_fill]
    split_ifs at hs with hj
    · obtain ⟨s', hs', rfl⟩ := Option.map_eq_some_iff.1 hs
      exact (hc.found hs' :)
    · exact hc.found hs
  · split_ifs at hs with hj
    · obtain ⟨s', hs', rfl⟩ := Option.map_eq_some_iff.1 hs
      obtain ⟨p?, hp⟩ := slotAt?_of_number? h
      rw [← hj, hp, Option.some.injEq] at hs'
      cases he'; rw [he, ← hs']
    · exact hc.named hs he'

/-- In a well-filed catalog the published classes are those that their names
    resolve to. -/
theorem Filed.resolve?_iff (hc : c.Filed) :
    c.resolve? a = some e ↔
      ∃ k s, c.slotAt? k = some s ∧ s.published? = some e ∧
        e.model.qualifiedName = Name.qualified a := by
  constructor
  · intro h
    cases hk : c.number? a with
    | none => rw [resolve?_of_number?_none hk] at h; cases h
    | some k =>
      obtain ⟨p?, hp⟩ := slotAt?_of_number? hk
      rw [resolve?_of_number? hk, hp] at h
      exact ⟨k, _, hp, h, hc.named hp h⟩
  · rintro ⟨k, s, hs, he, hn⟩
    have hk : c.number? a = some k := by
      rw [← hc.found hs, ← hc.named hs he, hn]
      exact number?_congr (Name.qualified_qualified a).symm
    rw [resolve?_of_number? hk, hs]; exact he

theorem Filed.mem_built (hc : c.Filed) :
    e ∈ c.built ↔ c.resolve? e.model.qualifiedName = some e := by
  rw [built, List.mem_mergeSort, List.mem_filterMap, hc.resolve?_iff]
  constructor
  · rintro ⟨s, hs, he⟩
    obtain ⟨k, hk⟩ := List.mem_iff_getElem?.1 hs
    refine ⟨k, s, hk, he, ?_⟩
    rw [hc.named hk he, hc.qualified hk]
  · rintro ⟨k, s, hk, he, -⟩
    exact ⟨s, List.mem_iff_getElem?.2 ⟨k, hk⟩, he⟩

/-- The published classes are listed in strictly increasing order of name. -/
theorem Filed.built_sorted (hc : c.Filed) :
    c.built.Pairwise fun a b => a.model.qualifiedName < b.model.qualifiedName := by
  have hle : c.built.Pairwise fun a b => a.model.qualifiedName ≤ b.model.qualifiedName := by
    refine (List.pairwise_mergeSort (fun a b d hab hbd => ?_) (fun a b => ?_) _).imp
      of_decide_eq_true
    · exact decide_eq_true ((of_decide_eq_true hab).trans (of_decide_eq_true hbd))
    · rcases le_total a.model.qualifiedName b.model.qualifiedName with h | h <;> simp [h]
  have hne : c.built.Pairwise fun a b => a.model.qualifiedName ≠ b.model.qualifiedName := by
    refine (List.mergeSort_perm _ _).symm.pairwise ?_ Ne.symm
    rw [List.pairwise_filterMap, List.pairwise_iff_getElem]
    intro i j hi hj hij d hd e he hn
    have hi' : c.slotAt? i = some c.slots[i] := List.getElem?_eq_getElem hi
    have hj' : c.slotAt? j = some c.slots[j] := List.getElem?_eq_getElem hj
    have h := hc.found hi'
    rw [← hc.named hi' hd, hn, hc.named hj' he, hc.found hj', Option.some.injEq] at h
    omega
  exact (hle.and hne).imp fun h => lt_of_le_of_ne h.1 h.2

end ClassCatalog.Catalog
