/-
  Publication over whole runs.

  `published_once`: whatever requests a session gets, of the classes of one name
  at most one is ever handed out.  Before that its name does not resolve; from
  then on the name, and every slot of it, shows that class.
-/
import ClassCatalog.Proofs.Step

namespace ClassCatalog

namespace Catalog

variable {c c' : Catalog} {a : String} {k : Nat} {s : Slot}

/-- In a well-filed catalog a slot shows what its name resolves to. -/
theorem Filed.slotAt?_eq (hc : c.Filed) (h : c.slotAt? k = some s) :
    s = ⟨s.qualifiedName, c.resolve? s.qualifiedName⟩ := by
  rw [resolve?_of_number? (hc.found h), h]; rfl

theorem Filed.slotAt?_of_number? (hc : c.Filed) (h : c.number? a = some k) :
    c.slotAt? k = some ⟨Name.qualified a, c.resolve? a⟩ := by
  obtain ⟨p?, hp⟩ := Catalog.slotAt?_of_number? h
  rw [hp, hc.slotAt?_eq hp, resolve?_congr (Name.qualified_qualified a)]

/-- A catalog that started empty lists the classes that were published. -/
theorem Grows.built_perm {es : List Entry} (h : empty.Grows es c) : c.built.Perm es := by
  have hc := h.filed filed_empty
  have hn : c.built.Nodup :=
    hc.built_sorted.imp fun hlt heq => absurd (heq ▸ hlt) (lt_irrefl _)
  refine (List.perm_ext_iff_of_nodup hn (List.Nodup.of_map _ h.once)).2 fun e => ?_
  rw [hc.mem_built, h.resolve]
  constructor
  · rintro (he | ⟨he, -⟩)
    · cases he
    · exact he
  · exact fun he => Or.inr ⟨he, (h.named e he).symm⟩

end Catalog

namespace Session

/-- The session after a run of requests. -/
def after (requests : List Request) : Session := (run {} requests).1

theorem sound_after (requests : List Request) : (after requests).Sound := sound_empty.run requests

theorem after_append (requests requests' : List Request) :
    after (requests ++ requests') = ((after requests).run requests').1 :=
  run_append {} requests requests'

/-- The classes that the replies to a run of requests have handed out from the
    catalog with number `n`, in order. -/
def publishedBy (n : Nat) (requests : List Request) : List Entry :=
  publishedIn {} n requests

theorem grows_after (n : Nat) (requests : List Request) :
    Catalog.empty.Grows (publishedBy n requests) ((after requests).catalog n) :=
  run_grows sound_empty n requests

theorem grows_append (n : Nat) (requests requests' : List Request) :
    ((after requests).catalog n).Grows ((after requests).publishedIn n requests')
      ((after (requests ++ requests')).catalog n) := by
  rw [after_append]
  exact run_grows (sound_after requests) n requests'

variable {n : Nat} {requests : List Request} {a : String} {e : Entry}

/-- A name resolves to the class of that name that was handed out. -/
theorem resolve?_after : ((after requests).catalog n).resolve? a = some e ↔
    e ∈ publishedBy n requests ∧ e.qualifiedName = Name.qualified a := by
  rw [(grows_after n requests).resolve]
  exact or_iff_right nofun

/-- What is yet to be handed out does not resolve before. -/
theorem resolve?_before {requests' : List Request}
    (he : e ∈ (after requests).publishedIn n requests') (ha : e.qualifiedName = Name.qualified a) :
    ((after requests).catalog n).resolve? a = none := by
  have hg := grows_append n requests requests'
  rw [← hg.fresh e he, ha]
  exact Catalog.resolve?_congr (Name.qualified_qualified a).symm

/-- **Exactly one publication.**  Over a run of requests and any run after it:
    the classes handed out differ in name, and each has a serial number of its
    own; a name resolves to the class of that name which was handed out, and
    does not resolve before there is one; slots stay where they are, and those
    of a name show what it resolves to; the classes handed out are listed in
    increasing order of name. -/
theorem published_once (n : Nat) (requests requests' : List Request) :
    let now := (after requests).catalog n
    let then' := (after (requests ++ requests')).catalog n
    let done := publishedBy n requests
    ((publishedBy n (requests ++ requests')).map Entry.qualifiedName).Nodup ∧
    ((run {} requests).2.flatMap Reply.entries).Pairwise (fun d e => d.serial < e.serial) ∧
    (∀ a e, now.resolve? a = some e ↔ e ∈ done ∧ e.qualifiedName = Name.qualified a) ∧
    (∀ a e, e ∈ (after requests).publishedIn n requests' → e.qualifiedName = Name.qualified a →
      now.resolve? a = none) ∧
    (∀ a e, now.resolve? a = some e → then'.resolve? a = some e) ∧
    (∀ a k, now.number? a = some k → then'.number? a = some k ∧
      then'.slotAt? k = some ⟨Name.qualified a, then'.resolve? a⟩) ∧
    (∀ id ref, (after requests).slots.get? id = some ref →
      ∃ slot, (after requests).slotNow ref = some slot ∧
        (after (requests ++ requests')).slotNow ref = some ⟨slot.qualifiedName,
          ((after (requests ++ requests')).catalog ref.catalog).resolve? slot.qualifiedName⟩) ∧
    now.built.Perm done ∧
    now.built.Pairwise fun d e => d.qualifiedName < e.qualifiedName := by
  have hg := grows_append n requests requests'
  have hf := (sound_after (requests ++ requests')).filed
  refine ⟨(grows_after n _).once, (run_serials sound_empty requests).1, fun a e => resolve?_after,
    fun a e => resolve?_before, fun a e => hg.resolve_some, fun a k hk => ?_,
    fun id ref hr => ?_, (grows_after n requests).built_perm,
    ((sound_after requests).filed n).built_sorted⟩
  · exact ⟨hg.number hk, (hf n).slotAt?_of_number? (hg.number hk)⟩
  · obtain ⟨slot, hs⟩ := (sound_after requests).slots hr
    obtain ⟨slot', hs', hn⟩ := (grows_append ref.catalog requests requests').slot hs
    exact ⟨slot, hs, by rw [slotNow, hs', (hf ref.catalog).slotAt?_eq hs', hn]⟩

end Session

end ClassCatalog
