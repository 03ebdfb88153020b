/-
  What a request does to a session.

  * `Sound` is the invariant of sessions: catalogs are well-filed, a builder
    that has its header holds the slot of its class, and kept slots exist;
  * `Advances` says what a request can do at most: one catalog grows by the
    classes of the reply, the others by none, and serial numbers count up.
-/
import ClassCatalog.Session.Basic
import ClassCatalog.Proofs.Holding
import ClassCatalog.Proofs.Reading
import ClassCatalog.Proofs.Table

namespace ClassCatalog

open ClassFile (published)

/-- The builder that a command addresses. -/
def Command.builder? : Command → Option String
  | newBuilder id _ | dropBuilder id | header id _ | annotate id _ | field id _ _ | method id _ _
  | builderState id | finish id => some id
  | _ => none

/-- The classes that a reply hands out: those that the request has published. -/
def Reply.entries : Reply → List Entry
  | finished r => r.toOption.toList
  | read r => published r
  | readAll rs => rs.flatMap published
  | _ => []

namespace Session

variable {s s' s'' : Session} {n m : Nat} {id : String} {b b' : OpenBuilder} {es : List Entry}

/-! ## Catalogs -/

theorem catalog_setCatalog (s : Session) (n : Nat) (c : Catalog) (m : Nat) :
    (s.setCatalog n c).catalog m = if m = n then c else s.catalog m := by
  rw [catalog, setCatalog, Table.get?_put, catalog]
  split_ifs <;> rfl

theorem catalog_congr (h : s'.catalogs = s.catalogs) (m : Nat) : s'.catalog m = s.catalog m := by
  rw [catalog, catalog, h]

/-! ### Opening a catalog changes nothing but the names of catalogs -/

@[simp] theorem catalogs_openCatalog (s : Session) (name : String) :
    (s.openCatalog name).1.catalogs = s.catalogs := by
  unfold openCatalog; split <;> rfl

@[simp] theorem builders_openCatalog (s : Session) (name : String) :
    (s.openCatalog name).1.builders = s.builders := by
  unfold openCatalog; split <;> rfl

@[simp] theorem slots_openCatalog (s : Session) (name : String) :
    (s.openCatalog name).1.slots = s.slots := by
  unfold openCatalog; split <;> rfl

@[simp] theorem nextSerial_openCatalog (s : Session) (name : String) :
    (s.openCatalog name).1.nextSerial = s.nextSerial := by
  unfold openCatalog; split <;> rfl

/-! ### Growth -/

/-- One catalog grows by the classes `es`, the others by none. -/
def Grows (s : Session) (n : Nat) (es : List Entry) (s' : Session) : Prop :=
  ∀ m, (s.catalog m).Grows (if m = n then es else []) (s'.catalog m)

theorem Grows.of_catalogs (n : Nat) (h : s'.catalogs = s.catalogs) : s.Grows n [] s' := by
  intro m
  rw [ite_self, catalog_congr h]
  exact .refl _

theorem Grows.setCatalog {c : Catalog} (h : (s.catalog n).Grows es c) :
    s.Grows n es (s.setCatalog n c) := by
  intro m
  rw [catalog_setCatalog]
  split_ifs with hm
  · rw [hm]; exact h
  · exact .refl _

theorem Grows.of_setCatalog {c : Catalog} (h : (s.catalog n).Grows es c)
    (hc : s'.catalogs = (s.setCatalog n c).catalogs) : s.Grows n es s' := by
  intro m
  rw [catalog_congr hc]
  exact Grows.setCatalog h m

theorem Grows.trans_nil (h : s.Grows n [] s') (h' : s'.Grows n [] s'') : s.Grows n [] s'' := by
  intro m
  have := (h m).trans (h' m)
  rwa [ite_self] at this ⊢

/-! ## The invariant -/

/-- An open builder holds the slot of its class. -/
def Holding (s : Session) (b : OpenBuilder) : Prop :=
  b.builder.Holds b.slot? (s.catalog b.catalog)

/-- The invariant of sessions. -/
structure Sound (s : Session) : Prop where
  filed : ∀ m, (s.catalog m).Filed
  builders : ∀ {id b}, s.builders.get? id = some b → s.Holding b
  slots : ∀ {id ref}, s.slots.get? id = some ref → ∃ slot, s.slotNow ref = some slot

theorem sound_empty : Sound {} := ⟨fun _ => Catalog.filed_empty, nofun, nofun⟩

theorem Holding.mono (h : s.Holding b) (hg : s.Grows n es s') : s'.Holding b :=
  ClassBuilder.Holds.mono h (hg b.catalog)

theorem holding_new (s : Session) (n : Nat) (settings : Settings) :
    s.Holding { catalog := n, builder := .ofSettings settings } :=
  nofun

theorem slotNow_mono {ref : SlotRef} {slot : Slot} (hg : s.Grows n es s')
    (h : s.slotNow ref = some slot) :
    ∃ slot', s'.slotNow ref = some slot' ∧ slot'.qualifiedName = slot.qualifiedName :=
  (hg ref.catalog).slot h

/-- What is there stays sound when catalogs grow; what is new has to be. -/
theorem Sound.mono (hs : s.Sound) (hg : s.Grows n es s')
    (hb : ∀ {id b}, s'.builders.get? id = some b → s.builders.get? id = some b ∨ s'.Holding b)
    (hr : ∀ {id ref}, s'.slots.get? id = some ref →
      s.slots.get? id = some ref ∨ ∃ slot, s'.slotNow ref = some slot) : s'.Sound where
  filed m := (hg m).filed (hs.filed m)
  builders h := (hb h).elim (fun h => (hs.builders h).mono hg) fun h => h
  slots h := by
    rcases hr h with h | h
    · obtain ⟨slot, h⟩ := hs.slots h
      obtain ⟨slot', h', -⟩ := slotNow_mono hg h
      exact ⟨slot', h'⟩
    · exact h

theorem Sound.openCatalog (hs : s.Sound) (name : String) : (s.openCatalog name).1.Sound :=
  hs.mono (.of_catalogs 0 (catalogs_openCatalog s name))
    (fun h => Or.inl (builders_openCatalog s name ▸ h))
    (fun h => Or.inl (slots_openCatalog s name ▸ h))

/-! ## What a request can do -/

/-- A request publishes the classes `es` in the catalog with number `n`. -/
structure Advances (s : Session) (n : Nat) (es : List Entry) (s' : Session) : Prop where
  sound : s'.Sound
  grows : s.Grows n es s'
  later : s.nextSerial ≤ s'.nextSerial
  serials : ∀ e ∈ es, s.nextSerial ≤ e.serial ∧ e.serial < s'.nextSerial
  ordered : es.Pairwise fun d e => d.serial < e.serial

theorem Advances.congr (h : s'.Advances n es s'') (hc : s'.catalogs = s.catalogs)
    (hn : s'.nextSerial = s.nextSerial) : s.Advances n es s'' where
  sound := h.sound
  grows m := catalog_congr hc m ▸ h.grows m
  later := hn ▸ h.later
  serials := hn ▸ h.serials
  ordered := h.ordered

/-- A request that publishes nothing. -/
theorem Advances.of_grows (hs : s.Sound) (hg : s.Grows n [] s') (hn : s'.nextSerial = s.nextSerial)
    (hb : ∀ {id b}, s'.builders.get? id = some b → s.builders.get? id = some b ∨ s'.Holding b)
    (hr : ∀ {id ref}, s'.slots.get? id = some ref →
      s.slots.get? id = some ref ∨ ∃ slot, s'.slotNow ref = some slot) : s.Advances n [] s' where
  sound := hs.mono hg hb hr
  grows := hg
  later := hn.ge
  serials := nofun
  ordered := .nil

/-- A request that changes neither catalogs nor builders nor kept slots. -/
theorem Advances.idle (hs : s.Sound) (n : Nat) (hc : s'.catalogs = s.catalogs)
    (hb : s'.builders = s.builders) (hr : s'.slots = s.slots) (hn : s'.nextSerial = s.nextSerial) :
    s.Advances n [] s' :=
  .of_grows hs (.of_catalogs n hc) hn (fun h => Or.inl (hb ▸ h)) (fun h => Or.inl (hr ▸ h))

/-- A request that changes one catalog only. -/
theorem Advances.of_setCatalog {c : Catalog} (hs : s.Sound) (hg : (s.catalog n).Grows es c)
    (hc : s'.catalogs = (s.setCatalog n c).catalogs) (hb : s'.builders = s.builders)
    (hr : s'.slots = s.slots) (hn : s.nextSerial ≤ s'.nextSerial)
    (he : ∀ e ∈ es, s.nextSerial ≤ e.serial ∧ e.serial < s'.nextSerial)
    (ho : es.Pairwise fun d e => d.serial < e.serial) : s.Advances n es s' where
  sound := hs.mono (.of_setCatalog hg hc) (fun h => Or.inl (hb ▸ h)) (fun h => Or.inl (hr ▸ h))
  grows := .of_setCatalog hg hc
  later := hn
  serials := he
  ordered := ho

end Session

end ClassCatalog
