/-
  Annotations are kept under the names of their types.

  A name is found again as the type it is the name of, as long as class names are legal, so
  that annotations of different types never meet under one name.

  * `FieldType.descriptor_inj`: a legal type is known by its descriptor, too;
  * `AnnotationEvent.HasType`: annotations whose descriptors are those of legal types
    (`type?_eq_name_iff`);
  * `Scope.handle?_capture`: one annotation changes what is found under its own type only,
    and `Scope.handle?_ofEvents`: after any annotations the last one of a type is found
    under its name;
  * `types_kept_apart`: names and descriptors of legal types, and scopes.
-/
import ClassCatalog.Proofs.Capture
import ClassCatalog.Proofs.Descriptor

namespace ClassCatalog

open FieldType (fieldTypeName fieldTypeName_descriptor)

theorem FieldType.descriptor_inj {s t : FieldType} (hs : s.Legal) (ht : t.Legal)
    (h : s.descriptor = t.descriptor) : s = t := by
  have hname : fieldTypeName s.descriptor = .ok t.name := by
    rw [h, fieldTypeName_descriptor ht.delimited]
  rw [fieldTypeName_descriptor hs.delimited] at hname
  exact name_inj hs ht (Except.ok.inj hname)

/-! ## Annotations of a type -/

namespace AnnotationEvent

/-- The annotation is given by the descriptor of the type, which is a legal one. -/
def HasType (a : AnnotationEvent) (t : FieldType) : Prop := t.Legal ∧ a.descriptor = t.descriptor

variable {a : AnnotationEvent} {s t : FieldType}

theorem HasType.type?_eq (h : a.HasType t) : a.type? = some t.name := by
  rw [type?, h.2, fieldTypeName_descriptor h.1.delimited]
  rfl

/-- Under the name of a legal type come the annotations with its descriptor. -/
theorem HasType.descriptor_eq_iff (h : a.HasType s) (ht : t.Legal) :
    a.descriptor = t.descriptor ↔ s = t := by
  rw [h.2]
  exact ⟨FieldType.descriptor_inj h.1 ht, congrArg _⟩

end AnnotationEvent

/-! ## Scopes -/

namespace Scope

open AnnotationEvent (HasType)

/-- An annotation is found under its own type; under another one there is what there was. -/
theorem handle?_capture {a : AnnotationEvent} {s t : FieldType} (h : a.HasType s) (ht : t.Legal)
    (scope : Scope) : (scope.capture a).handle? t.name =
      if s = t then some ⟨t.name, Table.ofPuts a.values⟩ else scope.handle? t.name := by
  rw [capture_eq_put (AnnotationEvent.type?_eq_some_iff.1 h.type?_eq), handle?, Table.get?_put]
  by_cases hst : s = t
  · rw [if_pos hst, if_pos (congrArg _ hst.symm)]
    rfl
  · have hname : t.name ≠ s.name := fun hname => hst (FieldType.name_inj ht h.1 hname).symm
    rw [if_neg hst, if_neg hname]
    rfl

/-- Of the annotations with the descriptor of a type the last one is found under its name. -/
theorem handle?_ofEvents {events : List AnnotationEvent} (hevents : ∀ a ∈ events, ∃ s, a.HasType s)
    {t : FieldType} (ht : t.Legal) : (ofEvents events).handle? t.name =
      (events.filter (·.descriptor = t.descriptor)).getLast?.map
        fun a => ⟨t.name, Table.ofPuts a.values⟩ := by
  induction events using List.reverseRecOn with
  | nil => rfl
  | append_singleton events a ih =>
    obtain ⟨s, hs⟩ := hevents a (by simp)
    rw [ofEvents_concat, handle?_capture hs ht, List.filter_append,
      ih fun b hb => hevents b (by simp [hb])]
    by_cases hst : s = t
    · simp [hst, (hs.descriptor_eq_iff ht).2 hst]
    · simp [hst, (hs.descriptor_eq_iff ht).not.2 hst]

/-- Names that tell the types apart stand for them in the order in which they came first. -/
theorem eraseDups_map_name {types : List FieldType} (h : ∀ t ∈ types, t.Legal) :
    (types.map (·.name)).eraseDups = types.eraseDups.map (·.name) := by
  induction types using List.reverseRecOn with
  | nil => rfl
  | append_singleton types t ih =>
    have htypes : ∀ s ∈ types, s.Legal := fun s hs => h s (by simp [hs])
    have hmem : t.name ∈ types.map (·.name) ↔ t ∈ types := by
      constructor
      · intro hname
        obtain ⟨s, hs, hst⟩ := List.mem_map.1 hname
        exact FieldType.name_inj (htypes s hs) (h t (by simp)) hst ▸ hs
      · exact List.mem_map_of_mem
    rw [List.map_append, List.eraseDups_append, List.eraseDups_append, ih htypes, List.map_append]
    by_cases ht : t ∈ types
    · have hname := hmem.2 ht
      simp only [List.map_singleton, List.removeAll, List.filter_cons, List.elem_eq_mem, hname, ht]
      simp
    · have hname := hmem.not.2 ht
      simp only [List.map_singleton, List.removeAll, List.filter_cons, List.elem_eq_mem, hname, ht]
      simp [List.eraseDups_cons]

/-- Each type has one name in the scope, where its first annotation came. -/
theorem names_ofEvents_of_types {events : List AnnotationEvent} {types : List FieldType}
    (hlegal : ∀ t ∈ types, t.Legal)
    (h : events.map (·.descriptor) = types.map (·.descriptor)) :
    (ofEvents events).names = types.eraseDups.map (·.name) := by
  have htypes : events.filterMap (·.type?) = types.map (·.name) := by
    calc events.filterMap (·.type?)
        = (events.map (·.descriptor)).filterMap fun d => (fieldTypeName d).toOption := by
          rw [List.filterMap_map]
          rfl
      _ = types.filterMap fun t => (fieldTypeName t.descriptor).toOption := by
          rw [h, List.filterMap_map]
          rfl
      _ = types.filterMap fun t => some t.name := by
          refine List.filterMap_congr fun t ht => ?_
          rw [fieldTypeName_descriptor (hlegal t ht).delimited]
          rfl
      _ = types.map (·.name) := congrFun List.filterMap_eq_map' types
  rw [names_ofEvents, htypes, eraseDups_map_name hlegal]

end Scope

/-! ## Main statement -/

/-- **Types are kept apart.**  Legal types with one name are one type, and legal descriptors
    are read, different ones as different names.  What a scope holds under the name of a
    type is not touched by an annotation of another type: after any annotations it is the
    last one with the descriptor of that type, and each type that came has one name.  Class
    names are legal without `.`, `;` and `[`, unless they are keywords; they may even be
    empty. -/
theorem types_kept_apart :
    (∀ s t : FieldType, s.Legal → t.Legal → s.name = t.name → s = t) ∧
    (∀ s t : FieldType, s.Legal → t.Legal → s.descriptor ≠ t.descriptor →
      ∃ n m, fieldTypeName s.descriptor = .ok n ∧ fieldTypeName t.descriptor = .ok m ∧ n ≠ m) ∧
    (∀ (scope : Scope) (a : AnnotationEvent) (s t : FieldType), a.HasType s → t.Legal → s ≠ t →
      (scope.capture a).handle? t.name = scope.handle? t.name) ∧
    ∀ (events : List AnnotationEvent) (types : List FieldType), (∀ t ∈ types, t.Legal) →
      events.map (·.descriptor) = types.map (·.descriptor) →
      (Scope.ofEvents events).names = types.eraseDups.map (·.name) ∧
      ∀ t : FieldType, t.Legal → (Scope.ofEvents events).handle? t.name =
        (events.filter (·.descriptor = t.descriptor)).getLast?.map
          fun a => ⟨t.name, Table.ofPuts a.values⟩ := by
  refine ⟨fun s t => FieldType.name_inj, fun s t hs ht hne => ?_, fun scope a s t ha ht hne => ?_,
    fun events types hlegal h => ⟨Scope.names_ofEvents_of_types hlegal h, fun t ht => ?_⟩⟩
  · refine ⟨s.name, t.name, fieldTypeName_descriptor hs.delimited,
      fieldTypeName_descriptor ht.delimited, fun hname => hne ?_⟩
    rw [FieldType.name_inj hs ht hname]
  · rw [Scope.handle?_capture ha ht, if_neg hne]
  · refine Scope.handle?_ofEvents (fun a ha => ?_) ht
    have hmem : a.descriptor ∈ types.map (·.descriptor) := h ▸ List.mem_map_of_mem ha
    obtain ⟨s, hs, hdescriptor⟩ := List.mem_map.1 hmem
    exact ⟨s, hlegal s hs, hdescriptor.symm⟩

/-- A class, its array, the class again, and an array of a primitive type. -/
def typesOfEvents : List FieldType :=
  [.object "a/A", .array (.object "a/A"), .object "a/A", .array (.base .int)]

/-- Annotations of these types. -/
def eventsOfTypes : List AnnotationEvent :=
  [⟨"La/A;", true, [("x", .int 1)]⟩, ⟨"[La/A;", false, [("x", .int 2)]⟩,
    ⟨"La/A;", false, [("y", .int 3)]⟩, ⟨"[I", true, []⟩]

/-- The second annotation of the class replaces the first, and not that of the array. -/
theorem types_kept_apart_array :
    (∀ t ∈ typesOfEvents, t.Legal) ∧
    (∃ n m, fieldTypeName "La/A;" = .ok n ∧ fieldTypeName "[La/A;" = .ok m ∧ n ≠ m) ∧
    (Scope.ofEvents eventsOfTypes).names = ["a.A", "a.A[]", "int[]"] ∧
    (Scope.ofEvents eventsOfTypes).handle? "a.A" = some ⟨"a.A", [("y", .int 3)]⟩ ∧
    (Scope.ofEvents eventsOfTypes).handle? "a.A[]" = some ⟨"a.A[]", [("x", .int 2)]⟩ := by
  have hname : FieldType.LegalName "a/A" :=
    ⟨by decide, by decide, by decide, fun b => by cases b <;> decide⟩
  have hlegal : ∀ t ∈ typesOfEvents, t.Legal := by
    simp only [typesOfEvents, List.forall_mem_cons]
    exact ⟨hname, hname, hname, trivial, nofun⟩
  obtain ⟨-, hread, -, hscope⟩ := types_kept_apart
  obtain ⟨hnames, hhandle⟩ := hscope eventsOfTypes typesOfEvents hlegal (by decide)
  exact ⟨hlegal, hread (.object "a/A") (.array (.object "a/A")) hname hname (by decide),
    hnames.trans (by decide), hhandle (.object "a/A") hname, hhandle (.array (.object "a/A")) hname⟩

end ClassCatalog
