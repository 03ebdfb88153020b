/-
  Growth: what a run of registrations and publications leaves in a catalog.

  `Grows c es c'` says that exactly the classes `es` were published on the way
  from `c` to `c'`.  Names keep their slots and slots keep their classes, so
  that whoever got the number of a slot before holds the slot of the same name
  afterwards.
-/
import ClassCatalog.Proofs.Slots
import Mathlib.Data.List.Nodup

namespace ClassCatalog

/-- The qualified name of a published class. -/
def Entry.qualifiedName (e : Entry) : String := e.model.qualifiedName

namespace Catalog

variable {c c' c'' : Catalog} {es es' : List Entry} {a : String} {k : Nat} {e : Entry}

/-- Exactly the classes `es` were published on the way from `c` to `c'`. -/
structure Grows (c : Catalog) (es : List Entry) (c' : Catalog) : Prop where
  number : ∀ {a k}, c.number? a = some k → c'.number? a = some k
  slot : ∀ {k s}, c.slotAt? k = some s → ∃ s', c'.slotAt? k = some s' ∧
    s'.qualifiedName = s.qualifiedName
  resolve : ∀ {a e}, c'.resolve? a = some e ↔
    c.resolve? a = some e ∨ e ∈ es ∧ e.qualifiedName = Name.qualified a
  fresh : ∀ e ∈ es, c.resolve? e.qualifiedName = none
  named : ∀ e ∈ es, Name.qualified e.qualifiedName = e.qualifiedName
  once : (es.map Entry.qualifiedName).Nodup
  filed : c.Filed → c'.Filed

theorem Grows.refl (c : Catalog) : c.Grows [] c where
  number h := h
  slot h := ⟨_, h, rfl⟩
  resolve := by simp
  fresh := by simp
  named := by simp
  once := List.nodup_nil
  filed h := h

theorem Grows.perm (h : c.Grows es c') (hp : es.Perm es') : c.Grows es' c' where
  number := h.number
  slot := h.slot
  resolve := by
    intro a e
    rw [h.resolve, hp.mem_iff]
  fresh e he := h.fresh e (hp.mem_iff.2 he)
  named e he := h.named e (hp.mem_iff.2 he)
  once := (hp.map _).nodup_iff.1 h.once
  filed := h.filed

/-- What was resolved is resolved for ever. -/
theorem Grows.resolve_some (h : c.Grows es c') (he : c.resolve? a = some e) :
    c'.resolve? a = some e :=
  h.resolve.2 (Or.inl he)

theorem Grows.resolve_none (h : c.Grows es c') (hn : c'.resolve? a = none) :
    c.resolve? a = none := by
  cases ha : c.resolve? a with
  | none => rfl
  | some e => rw [h.resolve_some ha] at hn; cases hn

theorem Grows.resolve_new (h : c.Grows es c') (he : e ∈ es) :
    c'.resolve? e.qualifiedName = some e :=
  h.resolve.2 (Or.inr ⟨he, (h.named e he).symm⟩)

theorem Grows.trans (h : c.Grows es c') (h' : c'.Grows es' c'') : c.Grows (es ++ es') c'' where
  number hk := h'.number (h.number hk)
  slot hk := by
    obtain ⟨s', hs', hn'⟩ := h.slot hk
    obtain ⟨s'', hs'', hn''⟩ := h'.slot hs'
    exact ⟨s'', hs'', hn''.trans hn'⟩
  resolve := by
    intro a e
    rw [h'.resolve, h.resolve, List.mem_append, or_and_right, or_assoc]
  fresh e he := by
    rcases List.mem_append.1 he with he | he
    · exact h.fresh e he
    · exact h.resolve_none (h'.fresh e he)
  named e he := (List.mem_append.1 he).elim (h.named e) (h'.named e)
  once := by
    rw [List.map_append]
    refine h.once.append h'.once fun q hq hq' => ?_
    obtain ⟨e, he, rfl⟩ := List.mem_map.1 hq
    obtain ⟨e', he', hn⟩ := List.mem_map.1 hq'
    -- the first class would still be there when the second is published
    have := h'.fresh e' he'
    rw [hn, h.resolve_new he] at this
    cases this
  filed hc := h'.filed (h.filed hc)

theorem Grows.register (c : Catalog) (a : String) : c.Grows [] (c.register a).1 where
  number {b k} h := by
    rw [number?_register]
    split_ifs with hq
    · rw [number?_congr hq] at h; rw [register_of_number? h]
    · exact h
  slot h := ⟨_, slotAt?_register h, rfl⟩
  resolve := by simp
  fresh := by simp
  named := by simp
  once := List.nodup_nil
  filed h := h.register a

theorem Grows.fill (hk : c.number? a = some k) (ha : c.resolve? a = none)
    (he : e.qualifiedName = Name.qualified a) : c.Grows [e] (c.fill k e) where
  number h := by rw [number?_fill, h]
  slot {j s} h := by
    rw [slotAt?_fill, h]
    split_ifs <;> exact ⟨_, rfl, rfl⟩
  resolve := by
    intro b d
    rw [resolve?_fill hk, List.mem_singleton]
    split_ifs with hb
    · rw [resolve?_congr hb, ha, Option.some.injEq]
      constructor
      · rintro rfl
        exact Or.inr ⟨rfl, he.trans hb.symm⟩
      · rintro (h | ⟨rfl, -⟩)
        · cases h
        · rfl
    · constructor
      · exact Or.inl
      · rintro (h | ⟨rfl, hn⟩)
        · exact h
        · exact absurd (hn.symm.trans he) hb
  fresh d hd := by
    rw [List.mem_singleton.1 hd, he, resolve?_congr (Name.qualified_qualified a), ha]
  named d hd := by rw [List.mem_singleton.1 hd, he, Name.qualified_qualified]
  once := List.nodup_singleton _
  filed h := h.fill hk he

/-- **Publication.**  A class is published in the slot of its name iff the name
    did not resolve before. -/
theorem publish_cases (hk : c.number? a = some k) (he : e.qualifiedName = Name.qualified a) :
    (c.resolve? a = none ∧ c.publish (some k) e = .ok (c.fill k e) ∧ c.Grows [e] (c.fill k e)) ∨
      ((∃ d, c.resolve? a = some d) ∧
        c.publish (some k) e = .error (.alreadyBuilt e.qualifiedName)) := by
  rw [publish_eq hk, he]
  cases ha : c.resolve? a with
  | none => exact Or.inl ⟨rfl, rfl, .fill hk ha he⟩
  | some d => exact Or.inr ⟨⟨d, rfl⟩, rfl⟩

end Catalog

end ClassCatalog
