/-
  Annotations are read alike, wherever they stand.

  An annotation that stands on its own is delivered to a builder: its type first, then
  one element after the other.  One that is the value of an element is interpreted as a
  whole, its type last.

  * `value_nested_eq_ok_iff`, `annotated_eq_ok_iff`: both succeed with the same elements;
  * `Place`: where a builder takes annotations.  What is delivered there is captured with
    its elements (`visitWith_of_type`);
  * `value_of_lastNamed`: which element of an enclosing annotation a name stands for;
  * `nested_like_delivered`: so both give the same annotation, and the same views of it.
-/
import ClassCatalog.Proofs.Capture
import ClassCatalog.Proofs.RoundTrip

namespace ClassCatalog

namespace ClassFile

open Writer (Reads)

variable {p : Pool}

/-! ## An annotation as a value -/

theorem attributes_cons_eq_ok_iff {read as : List (String × ElementValue)} {i : Nat} {e : Element}
    {pairs : List (Nat × Element)} : attributes p read ((i, e) :: pairs) = .ok as ↔
      ∃ name v, p.text i = .ok name ∧ value p e = .ok v ∧
        attributes p (Table.put read name v) pairs = .ok as := by
  rw [attributes]
  simp only [bind_eq_ok_iff, exists_and_left]

/-- Attributes are read iff all names and values are. -/
theorem attributes_eq_ok_iff {read as : List (String × ElementValue)}
    {pairs : List (Nat × Element)} : attributes p read pairs = .ok as ↔
      ∃ ys, Reads p pairs ys ∧ as = ys.foldl (fun t e => Table.put t e.1 e.2) read := by
  constructor
  · intro h
    induction pairs generalizing read with
    | nil =>
      cases h
      exact ⟨[], .nil, rfl⟩
    | cons x pairs ih =>
      obtain ⟨name, v, hname, hv, h⟩ := attributes_cons_eq_ok_iff.1 h
      obtain ⟨ys, hys, rfl⟩ := ih h
      exact ⟨(name, v) :: ys, .cons ⟨hname, hv⟩ hys, rfl⟩
  · rintro ⟨ys, hys, rfl⟩
    exact hys.attributes read

theorem value_nested_eq_ok_iff {type : Nat} {pairs : List (Nat × Element)} {v : ElementValue} :
    value p (.nested type pairs) = .ok v ↔
      ∃ n ys, p.typeName type = .ok n ∧ Reads p pairs ys ∧ v = .nested n (Table.ofPuts ys) := by
  rw [value, bind_eq_ok_iff]
  constructor
  · rintro ⟨as, has, h⟩
    obtain ⟨n, hn, h⟩ := bind_eq_ok_iff.1 h
    obtain ⟨ys, hys, rfl⟩ := attributes_eq_ok_iff.1 has
    cases h
    exact ⟨n, ys, hn, hys, rfl⟩
  · rintro ⟨n, ys, hn, hys, rfl⟩
    exact ⟨_, hys.attributes [], bind_eq_ok_iff.2 ⟨n, hn, rfl⟩⟩

/-- A descriptor other than that of `void` is read as the type of an annotation. -/
theorem typeName_eq_ok_iff {i : Nat} {n : String} (hv : p.text i ≠ .ok "V") :
    p.typeName i = .ok n ↔ ∃ d, p.text i = .ok d ∧ annotationType d = .ok n := by
  rw [Pool.typeName, bind_eq_ok_iff]
  refine exists_congr fun d => and_congr_right fun hd => ?_
  have hne : d ≠ "V" := by
    rintro rfl
    exact hv hd
  rw [if_neg hne, annotationType]
  rcases FieldType.fieldTypeName d with error | name <;> simp [Except.mapError]

/-! ## An annotation as it is delivered -/

namespace Delivery

variable {σ : Type} {v : Visitor σ} {s t : σ}

/-- What a delivery that ends well leaves is what its script leaves. -/
theorem Follows.run_eq_ok_iff {α : Type} {d : Delivery σ α} {script : List Recorded} {a : α}
    (h : Follows v d script (.ok a)) :
    d.run.run s = (.ok a, t) ↔ v.feed s script = (t, .ok ()) := by
  rw [h s]
  rcases v.feed s script with ⟨t', error | u⟩
  · constructor <;> intro h <;> cases h
  · constructor <;> intro h <;> cases h <;> rfl

theorem exists_run_of_bind {α β : Type} {d : Delivery σ α} {k : α → Delivery σ β} {b : β}
    (h : (d >>= k).run.run s = (.ok b, t)) :
    ∃ a u, d.run.run s = (.ok a, u) ∧ (k a).run.run u = (.ok b, t) := by
  rw [run_bind] at h
  rcases hd : d.run.run s with ⟨error | a, u⟩ <;> rw [hd] at h
  · cases h
  · exact ⟨a, u, rfl, h⟩

theorem eq_ok_of_lookedUp {α : Type} {r : Except ReplayError α} {a : α} {u : σ}
    (h : (lookedUp r : Delivery σ α).run.run s = (.ok a, u)) : r = .ok a :=
  congrArg Prod.fst h

/-- Elements that are all delivered have names and values. -/
theorem reads_of_elements {pairs : List (Nat × Element)}
    (h : (elements v p pairs).run.run s = (.ok (), t)) : ∃ ys, Reads p pairs ys := by
  induction pairs generalizing s with
  | nil => exact ⟨[], .nil⟩
  | cons x pairs ih =>
    obtain ⟨_, u, hx, hxs⟩ := exists_run_of_bind h
    obtain ⟨name, u₁, hname, hx⟩ := exists_run_of_bind hx
    obtain ⟨value, u₂, hvalue, -⟩ := exists_run_of_bind hx
    obtain ⟨ys, hys⟩ := ih hxs
    exact ⟨(name, value) :: ys, .cons ⟨eq_ok_of_lookedUp hname, eq_ok_of_lookedUp hvalue⟩ hys⟩

/-- An annotation that is all delivered is an event, with the descriptor, and one element
    for each pair. -/
theorem annotated_eq_ok_iff (a : AnnotationItem) (makeEvent : String → Event) :
    (annotated v p a makeEvent).run.run s = (.ok (), t) ↔
      ∃ d ys, p.text a.type = .ok d ∧ Reads p a.pairs ys ∧
        v.feed s (.event (makeEvent d) :: ys.map fun y => .element y.1 y.2) = (t, .ok ()) := by
  have hfollows (d : String) (ys : List (String × ElementValue)) (hd : p.text a.type = .ok d)
      (hys : Reads p a.pairs ys) : Follows v (annotated v p a makeEvent)
        (.event (makeEvent d) :: ys.map fun y => .element y.1 y.2) (.ok ()) := by
    rw [annotated, hd]
    exact (Follows.lookedUp v _).bind ((Follows.event v _).bind (follows_elements v hys))
  constructor
  · intro h
    obtain ⟨d, u, hd, h'⟩ := exists_run_of_bind h
    obtain ⟨_, u', -, h'⟩ := exists_run_of_bind h'
    obtain ⟨ys, hys⟩ := reads_of_elements h'
    have hd := eq_ok_of_lookedUp hd
    exact ⟨d, ys, hd, hys, (hfollows d ys hd hys).run_eq_ok_iff.1 h⟩
  · rintro ⟨d, ys, hd, hys, h⟩
    exact (hfollows d ys hd hys).run_eq_ok_iff.2 h

end Delivery

end ClassFile

/-! ## Where annotations are taken -/

/-- The state, as long as nothing was refused. -/
def Latched.unfailed? {σ : Type} (b : Latched σ) : Option σ :=
  if b.failure? = none then some b.state else none

theorem Latched.unfailed?_eq_some_iff {σ : Type} {b : Latched σ} {state : σ} :
    b.unfailed? = some state ↔ b = ⟨state, none⟩ := by
  obtain ⟨state', failure?⟩ := b
  cases failure? <;> simp [unfailed?]

/-- Where an annotation stands: on the class, on the field or method declared last, or on
    one of its parameters. -/
inductive Place where
  | onClass
  | onField
  | onMethod (target : MethodTarget)

/-- The event of an annotation at a place. -/
def Place.event (descriptor : String) (visible : Bool) : Place → Event
  | onClass => .classAnnotated descriptor visible
  | onField => .fieldAnnotated descriptor visible
  | onMethod .method => .methodAnnotated descriptor visible
  | onMethod (.parameter i) => .parameterAnnotated i descriptor visible

theorem Session.methodEvent_eq (x : MethodTarget × AnnotationEvent) :
    methodEvent x = ((Place.onMethod x.1).event x.2.descriptor x.2.visible, x.2.values) := by
  obtain ⟨target, a⟩ := x
  cases target <;> rfl

/-- The annotations captured at a place, as long as more are taken there. -/
def ClassBuilder.annotationsAt? (b : ClassBuilder) : Place → Option Scope
  | .onClass => b.unfailed?.bind fun d => d.identity?.map fun _ => d.annotations
  | .onField => b.state.fields.head?.bind fun f => f.unfailed?.map (·.annotations)
  | .onMethod target => b.state.methods.head?.bind fun m => m.unfailed?.map (·.scope target)

/-- The annotations of a built class at a place. -/
def ClassModel.annotationsAt? (c : ClassModel) : Place → Option Scope
  | .onClass => some c.annotations
  | .onField => c.fields.getLast?.map (·.annotations)
  | .onMethod target => c.methods.getLast?.map (·.scope target)

namespace ClassBuilder

variable {b : ClassBuilder} {s : Scope}

theorem annotationsAt?_onClass_eq_some (h : b.annotationsAt? .onClass = some s) :
    b.failure? = none ∧ (∃ owner, b.name? = some owner) ∧ b.state.annotations = s := by
  obtain ⟨d, hb, h⟩ := Option.bind_eq_some_iff.1 h
  obtain ⟨i, hi, rfl⟩ := Option.map_eq_some_iff.1 h
  obtain rfl := Latched.unfailed?_eq_some_iff.1 hb
  exact ⟨rfl, ⟨i.header.name, by rw [name?, hi]; rfl⟩, rfl⟩

theorem annotationsAt?_onField_eq_some (h : b.annotationsAt? .onField = some s) :
    ∃ m fs, b = ⟨{ b.state with fields := ⟨m, none⟩ :: fs }, b.failure?⟩ ∧ m.annotations = s := by
  obtain ⟨f, hf, h⟩ := Option.bind_eq_some_iff.1 h
  obtain ⟨m, hm, rfl⟩ := Option.map_eq_some_iff.1 h
  obtain rfl := Latched.unfailed?_eq_some_iff.1 hm
  obtain ⟨fs, hfs⟩ := List.head?_eq_some_iff.1 hf
  exact ⟨m, fs, by rw [← hfs], rfl⟩

theorem annotationsAt?_onMethod_eq_some {target : MethodTarget}
    (h : b.annotationsAt? (.onMethod target) = some s) :
    ∃ m ms, b = ⟨{ b.state with methods := ⟨m, none⟩ :: ms }, b.failure?⟩ ∧
      m.scope target = s := by
  obtain ⟨f, hf, h⟩ := Option.bind_eq_some_iff.1 h
  obtain ⟨m, hm, rfl⟩ := Option.map_eq_some_iff.1 h
  obtain rfl := Latched.unfailed?_eq_some_iff.1 hm
  obtain ⟨ms, hms⟩ := List.head?_eq_some_iff.1 hf
  exact ⟨m, ms, by rw [← hms], rfl⟩

/-- What is captured at a place is what the class has there when it is built. -/
theorem annotationsAt?_of_build {model : ClassModel} (hb : b.build = .ok model) {place : Place}
    (h : b.annotationsAt? place = some s) : model.annotationsAt? place = some s := by
  unfold build Latched.complete at hb
  split at hb
  · cases hb
  obtain ⟨i, -, rfl⟩ := ClassDraft.build_members hb
  cases place with
  | onClass =>
    obtain ⟨-, -, rfl⟩ := annotationsAt?_onClass_eq_some h
    rfl
  | onField =>
    obtain ⟨m, fs, heq, rfl⟩ := annotationsAt?_onField_eq_some h
    rw [heq]
    simp [ClassModel.annotationsAt?]
  | onMethod target =>
    obtain ⟨m, ms, heq, rfl⟩ := annotationsAt?_onMethod_eq_some h
    rw [heq]
    simp [ClassModel.annotationsAt?]

variable {place : Place} {a : AnnotationEvent}

/-- An annotation that names a type is captured where it stands. -/
theorem visitWith_of_type (h : b.annotationsAt? place = some s) {t : String}
    (ht : annotationType a.descriptor = .ok t) :
    ∃ b', b.visitWith (place.event a.descriptor a.visible) a.values = (b', .ok ()) ∧
      b'.annotationsAt? place = some (s.capture a) := by
  cases place with
  | onClass =>
    obtain ⟨hf, ⟨owner, hn⟩, rfl⟩ := annotationsAt?_onClass_eq_some h
    refine ⟨_, visitWith_annotated_of_type hf hn ht, ?_⟩
    obtain ⟨i, hi, -⟩ := Option.map_eq_some_iff.1 hn
    simp [annotationsAt?, Latched.unfailed?, hf, hi]
  | onField =>
    obtain ⟨m, fs, hb, rfl⟩ := annotationsAt?_onField_eq_some h
    have hvisit := visitWith_field b.state b.failure? ⟨m, none⟩ fs a
    rw [← hb, FieldBuilder.capture_of_type ht] at hvisit
    exact ⟨_, hvisit, rfl⟩
  | onMethod target =>
    obtain ⟨m, ms, hb, rfl⟩ := annotationsAt?_onMethod_eq_some h
    have hvisit := visitWith_method b.state b.failure? ⟨m, none⟩ ms (target, a)
    have hcapture := MethodBuilder.captureAt_of_type (x := (target, a)) ht m
    rw [MethodBuilder.captureAt] at hcapture
    rw [← hb, hcapture, Session.methodEvent_eq] at hvisit
    refine ⟨_, hvisit, ?_⟩
    have hscope : (m.captureAt (target, a)).scope target = (m.scope target).capture a := by
      rw [MethodModel.captureAt, MethodModel.scope_onScope, if_pos rfl]
    exact congrArg some hscope

/-- An annotation that names no type is refused. -/
theorem visitWith_of_no_type (h : b.annotationsAt? place = some s) {error : BuildError}
    (he : annotationType a.descriptor = .error error) :
    (b.visitWith (place.event a.descriptor a.visible) a.values).2 = .error error := by
  have hr : a.refusal? = some error := by
    rcases annotationType_eq a with ⟨t, ht, -⟩ | ⟨error', he', hr⟩
    · cases he.symm.trans ht
    · cases he.symm.trans he'
      exact hr
  cases place with
  | onClass =>
    obtain ⟨hf, ⟨owner, hn⟩, rfl⟩ := annotationsAt?_onClass_eq_some h
    have hd : b.state.annotate a.descriptor a.visible = .error error := by
      rw [ClassDraft.annotate, owner_of_name? hn, Scope.annotate, he]
      rfl
    rw [Place.event, visitWith_of_refused (·.annotate a.descriptor a.visible) rfl hf hd]
  | onField =>
    obtain ⟨m, fs, hb, rfl⟩ := annotationsAt?_onField_eq_some h
    have hvisit := visitWith_field b.state b.failure? ⟨m, none⟩ fs a
    rw [← hb, FieldBuilder.checks_capture.refused rfl hr] at hvisit
    exact congrArg Prod.snd hvisit
  | onMethod target =>
    obtain ⟨m, ms, hb, rfl⟩ := annotationsAt?_onMethod_eq_some h
    have hvisit := visitWith_method b.state b.failure? ⟨m, none⟩ ms (target, a)
    have hcapture :=
      MethodBuilder.checks_captureAt.refused (b := ⟨m, none⟩) (e := (target, a)) rfl hr
    rw [MethodBuilder.captureAt] at hcapture
    rw [← hb, hcapture, Session.methodEvent_eq] at hvisit
    exact congrArg Prod.snd hvisit

/-- An annotation that is fed to a builder is visited with its elements. -/
theorem visitor_feed_annotation (b : ClassBuilder) (sink : Sink) (e : Event)
    (values : List (String × ElementValue)) :
    ∃ sink', visitor.feed (b, sink) (.event e :: values.map fun y => .element y.1 y.2) =
      (((b.visitWith e values).1, sink'), (b.visitWith e values).2) := by
  have helements (b : ClassBuilder) (sink : Sink) :
      visitor.feed (b, sink) (values.map fun y => .element y.1 y.2) =
        ((b.recordAll sink values, sink), .ok ()) := by
    induction values generalizing b with
    | nil => rfl
    | cons y values ih => exact ih (b.record sink y.1 y.2)
  rcases hv : b.visit e with ⟨b', error | sink'⟩
  · rw [visitWith_of_error hv]
    exact ⟨.nowhere, Visitor.feed_event_error (visitor_visit_error hv)⟩
  · rw [visitWith_of_ok hv]
    exact ⟨sink', (Visitor.feed_event_ok (visitor_visit_ok hv)).trans (helements b' sink')⟩

end ClassBuilder

/-! ## Elements of an enclosing annotation -/

theorem forall₂_getElem? {α β : Type} {R : α → β → Prop} {as : List α} {bs : List β}
    (h : List.Forall₂ R as bs) {j : Nat} {a : α} (ha : as[j]? = some a) :
    ∃ b, bs[j]? = some b ∧ R a b := by
  induction h generalizing j with
  | nil => cases ha
  | @cons _ b _ _ hab _ ih =>
    cases j with
    | zero =>
      cases ha
      exact ⟨b, rfl, hab⟩
    | succ j => exact ih ha

theorem forall₂_of_mem {α β : Type} {R : α → β → Prop} {as : List α} {bs : List β}
    (h : List.Forall₂ R as bs) {a : α} (ha : a ∈ as) : ∃ b, R a b := by
  obtain ⟨j, hj⟩ := List.mem_iff_getElem?.1 ha
  obtain ⟨b, -, hab⟩ := forall₂_getElem? h hj
  exact ⟨b, hab⟩

namespace View

variable {v : View} {name : String} {x : ElementValue}

theorem value_of_get? (hd : v.schema.declares name) (h : v.attributes.get? name = some x) :
    v.value name = .ok x := by
  rw [value, if_pos hd, h]

theorem reading_eq_ok_iff {α : Type} {expected : String} {read : ElementValue → Option α} {a : α} :
    v.reading name expected read x = .ok a ↔ read x = some a := by
  rw [reading]
  rcases read x with _ | b <;> simp

theorem arrayOf_of_value {α : Type} {expected : String} {read : ElementValue → Option α}
    (h : v.value name = .ok x) :
    v.arrayOf name expected read = x.items.mapM (v.reading name expected read) := by
  rw [arrayOf, h]
  rfl

/-- An array is read iff all of its items are. -/
theorem arrayOf_eq_ok_iff {α : Type} {expected : String} {read : ElementValue → Option α}
    (h : v.value name = .ok x) {as : List α} : v.arrayOf name expected read = .ok as ↔
      List.Forall₂ (fun item a => read item = some a) x.items as := by
  simp only [arrayOf_of_value h, mapM_eq_ok_iff, reading_eq_ok_iff]

/-- A nested annotation is seen through the schema, and so is the array of itself. -/
theorem nested_of_value {t : String} {as : Attributes} (h : v.value name = .ok (.nested t as))
    (schema : Schema) : v.nested name schema = .ok ⟨schema, as⟩ ∧
      v.nestedArray name schema = .ok [⟨schema, as⟩] := by
  constructor
  · rw [nested, scalar, h]
    rfl
  · exact (arrayOf_eq_ok_iff h).2 (.cons rfl .nil)

end View

namespace ClassFile

open Writer (Reads)

variable {p : Pool}

theorem values_eq_mapM (items : List Element) : values p items = items.mapM (value p) := by
  induction items with
  | nil => rfl
  | cons item items ih => rw [values, List.mapM_cons, ih]

/-- The element is the last one with the name. -/
def LastNamed (p : Pool) (pairs : List (Nat × Element)) (name : String) (e : Element) : Prop :=
  ∃ before i after, pairs = before ++ (i, e) :: after ∧ p.text i = .ok name ∧
    ∀ x ∈ after, p.text x.1 ≠ .ok name

/-- Elements of other names make no difference to the value of a name. -/
theorem Writer.Reads.get?_of_ne {pairs : List (Nat × Element)} {ys : List (String × ElementValue)}
    (h : Reads p pairs ys) {name : String} (hn : ∀ x ∈ pairs, p.text x.1 ≠ .ok name)
    (read : Attributes) :
    Table.get? (ys.foldl (fun t e => Table.put t e.1 e.2) read) name = read.get? name := by
  induction h generalizing read with
  | nil => rfl
  | @cons x y pairs ys hxy _ ih =>
    obtain ⟨hx, hxs⟩ := List.forall_mem_cons.1 hn
    have hy : name ≠ y.1 := by
      rintro rfl
      exact hx hxy.1
    rw [List.foldl_cons, ih hxs, Table.get?_put_ne _ _ hy]

/-- Among elements that are read, a name has the value of the last element with it. -/
theorem Writer.Reads.get?_of_lastNamed {pairs : List (Nat × Element)}
    {ys : List (String × ElementValue)} (h : Reads p pairs ys) {name : String} {e : Element}
    (hl : LastNamed p pairs name e) :
    ∃ v, value p e = .ok v ∧ Table.get? (Table.ofPuts ys) name = some v := by
  obtain ⟨before, i, after, rfl, hi, hafter⟩ := hl
  unfold Table.ofPuts
  generalize ([] : Attributes) = read
  induction before generalizing ys read with
  | nil =>
    obtain ⟨y, ys, hy, hys, rfl⟩ := List.forall₂_cons_left_iff.1 h
    cases hi.symm.trans hy.1
    refine ⟨y.2, hy.2, ?_⟩
    rw [List.foldl_cons, Writer.Reads.get?_of_ne hys hafter, Table.get?_put_self]
  | cons x before ih =>
    obtain ⟨y, ys, -, hys, rfl⟩ := List.forall₂_cons_left_iff.1 h
    exact ih hys (Table.put read y.1 y.2)

/-- The view of an enclosing annotation shows the last element of each name. -/
theorem value_of_lastNamed {outer : AnnotationItem} {m : String} {bs : Attributes}
    (ho : value p (.nested outer.type outer.pairs) = .ok (.nested m bs)) {name : String}
    {e : Element} (hl : LastNamed p outer.pairs name e) {schema : Schema}
    (hd : schema.declares name) :
    ∃ v, value p e = .ok v ∧ (⟨schema, bs⟩ : View).value name = .ok v := by
  obtain ⟨n, ys, -, hys, hv⟩ := value_nested_eq_ok_iff.1 ho
  cases hv
  obtain ⟨v, hv, hget⟩ := hys.get?_of_lastNamed hl
  exact ⟨v, hv, View.value_of_get? hd hget⟩

theorem value_array_eq_ok_iff {items : List Element} {v : ElementValue} :
    value p (.array items) = .ok v ↔
      ∃ vs, List.Forall₂ (fun e v => value p e = .ok v) items vs ∧ v = .array vs := by
  rw [value, values_eq_mapM, bind_eq_ok_iff]
  simp only [← mapM_eq_ok_iff]
  refine exists_congr fun vs => and_congr_right fun _ => ?_
  exact ⟨fun h => (Except.ok.inj h).symm, fun h => congrArg Except.ok h.symm⟩

/-- Items that are all annotations are all seen through a schema. -/
theorem exists_views {items : List Element} {vs : List ElementValue}
    (h : List.Forall₂ (fun e v => value p e = .ok v) items vs)
    (hn : ∀ item ∈ items, ∃ type pairs, item = .nested type pairs) (schema : Schema) :
    ∃ views, List.Forall₂ (fun v view => View.nestedView? schema v = some view) vs views := by
  induction h with
  | nil => exact ⟨[], .nil⟩
  | cons hv _ ih =>
    obtain ⟨⟨type, pairs, rfl⟩, hns⟩ := List.forall_mem_cons.1 hn
    obtain ⟨n, ys, -, -, rfl⟩ := value_nested_eq_ok_iff.1 hv
    obtain ⟨views, hviews⟩ := ih hns
    exact ⟨⟨schema, Table.ofPuts ys⟩ :: views, .cons rfl hviews⟩

/-! ## Main statements -/

section

variable {a : AnnotationItem} {b : ClassBuilder} {place : Place} {s : Scope}

/-- What is delivered is captured with the type and attributes that it has as a value. -/
theorem delivered_of_value (hs : b.annotationsAt? place = some s) (hv : p.text a.type ≠ .ok "V")
    {n : String} {as : Attributes} (h : value p (.nested a.type a.pairs) = .ok (.nested n as))
    (sink : Sink) (visible : Bool) :
    ∃ b' sink', (Delivery.annotated ClassBuilder.visitor p a (place.event · visible)).run.run
        (b, sink) = (.ok (), (b', sink')) ∧
      b'.annotationsAt? place = some ⟨s.captures.put n as⟩ := by
  obtain ⟨n', ys, hn, hys, heq⟩ := value_nested_eq_ok_iff.1 h
  cases heq
  obtain ⟨d, hd, ht⟩ := (typeName_eq_ok_iff hv).1 hn
  obtain ⟨b', hvisit, hb'⟩ := ClassBuilder.visitWith_of_type hs (a := ⟨d, visible, ys⟩) ht
  obtain ⟨sink', hfeed⟩ := b.visitor_feed_annotation sink (place.event d visible) ys
  rw [hvisit] at hfeed
  rw [Scope.capture_eq_put (a := ⟨d, visible, ys⟩) ht] at hb'
  exact ⟨b', sink', (Delivery.annotated_eq_ok_iff a _).2 ⟨d, ys, hd, hys, hfeed⟩, hb'⟩

/-- What is all delivered has a value. -/
theorem value_of_delivered (hs : b.annotationsAt? place = some s) (hv : p.text a.type ≠ .ok "V")
    {sink : Sink} {visible : Bool}
    (h : ((Delivery.annotated ClassBuilder.visitor p a (place.event · visible)).run.run
      (b, sink)).1 = .ok ()) :
    ∃ n as, value p (.nested a.type a.pairs) = .ok (.nested n as) := by
  obtain ⟨d, ys, hd, hys, hfeed⟩ :=
    (Delivery.annotated_eq_ok_iff a (place.event · visible)).1 (Prod.ext h rfl)
  obtain ⟨sink', hfeed'⟩ := b.visitor_feed_annotation sink (place.event d visible) ys
  have hvisit : (b.visitWith (place.event d visible) ys).2 = .ok () :=
    congrArg Prod.snd (hfeed'.symm.trans hfeed)
  cases ht : annotationType d with
  | error error =>
    cases hvisit.symm.trans (ClassBuilder.visitWith_of_no_type hs (a := ⟨d, visible, ys⟩) ht)
  | ok n =>
    have hn := (typeName_eq_ok_iff hv).2 ⟨d, hd, ht⟩
    exact ⟨n, Table.ofPuts ys, value_nested_eq_ok_iff.2 ⟨n, ys, hn, hys, rfl⟩⟩

end

/-- **Annotations are read alike.**  An annotation whose descriptor is not that of `void` is
    delivered as a whole, wherever annotations are taken, iff it has a value.  Then it is
    captured, and found in the built class, with the type name and the attributes of that
    value; and where an enclosing annotation holds it, by itself or in an array, the
    view that is reached there is the view of the captured annotation. -/
theorem nested_like_delivered (p : Pool) (a : AnnotationItem) (hv : p.text a.type ≠ .ok "V") :
    (∀ (b : ClassBuilder) (sink : Sink) (place : Place) (visible : Bool) (s : Scope),
      b.annotationsAt? place = some s →
      let q := (Delivery.annotated ClassBuilder.visitor p a (place.event · visible)).run.run (b, sink)
      (q.1 = .ok () ↔ ∃ n as, value p (.nested a.type a.pairs) = .ok (.nested n as)) ∧
      ∀ n as, value p (.nested a.type a.pairs) = .ok (.nested n as) →
        q.2.1.annotationsAt? place = some ⟨s.captures.put n as⟩ ∧
        ∀ model, q.2.1.build = .ok model →
          ∃ s', model.annotationsAt? place = some s' ∧ s'.handle? n = some ⟨n, as⟩) ∧
    ∀ n as, value p (.nested a.type a.pairs) = .ok (.nested n as) →
      let captured : Handle := ⟨n, as⟩
      ∀ (outer : AnnotationItem) m bs, value p (.nested outer.type outer.pairs) = .ok (.nested m bs) →
      ∀ (schema own : Schema) name, schema.declares name →
        let view : View := ⟨schema, bs⟩
        (LastNamed p outer.pairs name (.nested a.type a.pairs) →
          view.nested name own = .ok (captured.view own) ∧
          view.nestedArray name own = .ok [captured.view own]) ∧
        ∀ items, LastNamed p outer.pairs name (.array items) →
          ((∀ item ∈ items, ∃ type pairs, item = .nested type pairs) →
            ∃ views, view.nestedArray name own = .ok views) ∧
          ∀ views, view.nestedArray name own = .ok views →
            ∀ j : Nat, items[j]? = some (.nested a.type a.pairs) →
              views[j]? = some (captured.view own) := by
  constructor
  · intro b sink place visible s hs q
    refine ⟨⟨value_of_delivered hs hv, ?_⟩, ?_⟩
    · rintro ⟨n, as, h⟩
      obtain ⟨b', sink', hrun, -⟩ := delivered_of_value hs hv h sink visible
      exact congrArg Prod.fst hrun
    · intro n as h
      obtain ⟨b', sink', hrun, hb'⟩ := delivered_of_value hs hv h sink visible
      have hq : q.2.1 = b' := congrArg (·.2.1) hrun
      rw [hq]
      refine ⟨hb', fun model hm => ⟨_, ClassBuilder.annotationsAt?_of_build hm hb', ?_⟩⟩
      rw [Scope.handle?, Table.get?_put_self]
      rfl
  · intro n as h captured outer m bs ho schema own name hd view
    constructor
    · intro hl
      obtain ⟨v, hv, hvalue⟩ := value_of_lastNamed ho hl hd
      cases h.symm.trans hv
      exact View.nested_of_value hvalue own
    · intro items hl
      obtain ⟨v, hv, hvalue⟩ := value_of_lastNamed ho hl hd
      obtain ⟨vs, hvs, rfl⟩ := value_array_eq_ok_iff.1 hv
      constructor
      · intro hn
        obtain ⟨views, hviews⟩ := exists_views hvs hn own
        exact ⟨views, (View.arrayOf_eq_ok_iff hvalue).2 hviews⟩
      · intro views hviews j hj
        obtain ⟨x, hx, hxv⟩ := forall₂_getElem? hvs hj
        cases h.symm.trans hxv
        obtain ⟨view', hview', heq⟩ :=
          forall₂_getElem? ((View.arrayOf_eq_ok_iff hvalue).1 hviews) hx
        cases heq
        exact hview'

/-- An element set twice, on an annotation of a parameter and in an array of annotations. -/
theorem nested_like_delivered_repeated :
    let p : Pool := ⟨[some (.utf8 "La/A;"), some (.utf8 "x"), some (.integer 1), some (.integer 2)]⟩
    let a : AnnotationItem := ⟨1, [(2, .scalar .int 3), (2, .scalar .int 4)]⟩
    let outer : AnnotationItem := ⟨1, [(2, .scalar .int 3), (2, .array [.nested a.type a.pairs])]⟩
    let b : ClassBuilder := (((ClassBuilder.ofSettings {}).visit
      (.header ⟨⟨0⟩, "a/B", none, none, []⟩)).1.visit (.method ⟨⟨0⟩, "m", "(I)V", none, []⟩)).1
    let place : Place := .onMethod (.parameter 0)
    let q := (Delivery.annotated ClassBuilder.visitor p a (place.event · true)).run.run (b, .nowhere)
    p.text a.type ≠ .ok "V" ∧ q.1 = .ok () ∧
      q.2.1.annotationsAt? place = some ⟨[("a.A", [("x", .int 2)])]⟩ ∧
      ∃ m bs, value p (.nested outer.type outer.pairs) = .ok (.nested m bs) ∧
        ∃ views, (⟨⟨"a.A", [("x", none)]⟩, bs⟩ : View).nestedArray "x" ⟨"a.A", [("x", none)]⟩ =
            .ok views ∧
          views[0]? = some ((⟨"a.A", [("x", .int 2)]⟩ : Handle).view ⟨"a.A", [("x", none)]⟩) := by
  intro p a outer b place
  have hv : p.text a.type ≠ .ok "V" := by decide
  have hscope : b.annotationsAt? place = some .empty := rfl
  have hvalue : value p (.nested a.type a.pairs) = .ok (.nested "a.A" [("x", .int 2)]) := rfl
  obtain ⟨hrun, hcaptured⟩ := (nested_like_delivered p a hv).1 b .nowhere place true .empty hscope
  -- the delivery is put in for its name, so that nothing has to be run
  dsimp only
  refine ⟨hv, hrun.2 ⟨_, _, hvalue⟩, (hcaptured _ _ hvalue).1, ?_⟩
  obtain ⟨m, bs, houter⟩ :
    ∃ m bs, value p (.nested outer.type outer.pairs) = .ok (.nested m bs) := ⟨_, _, rfl⟩
  have hlast : LastNamed p outer.pairs "x" (.array [.nested a.type a.pairs]) :=
    ⟨[(2, .scalar .int 3)], 2, [], rfl, rfl, nofun⟩
  obtain ⟨hall, hitem⟩ := ((nested_like_delivered p a hv).2 _ _ hvalue outer m bs houter
    ⟨"a.A", [("x", none)]⟩ ⟨"a.A", [("x", none)]⟩ "x" rfl).2 _ hlast
  obtain ⟨views, hviews⟩ := hall (List.forall_mem_singleton.2 ⟨_, _, rfl⟩)
  exact ⟨m, bs, houter, views, hviews, hitem views hviews 0 rfl⟩

end ClassFile

end ClassCatalog
