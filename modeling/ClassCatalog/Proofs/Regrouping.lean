/-
  What a class file makes of a class, and of the parameters of its methods.

  A replay gives a builder one event after the other; an annotation of a parameter comes
  with the index of the parameter.

  * `annotationEvent`, `fieldEvents`, `methodEvents`: the events of an annotation and of a
    member, as they are looked up in the file;
  * `Delivery.Takes`: a delivery that ends well gives a builder just what is looked up.
    With `takes_file` that holds of a file;
  * `model_of_result`: so a class that is built from a file is the class of the events of its file;
  * `listsAt`, `parameterAnnotationsOf_at`: what is delivered for one index are the lists
    that stand there in the attributes of the method, one after the other;
  * `parameter_annotations_regrouped`: hence each parameter has the annotations of these.
-/
import ClassCatalog.Proofs.Nesting
import ClassCatalog.Proofs.Parameters

namespace ClassCatalog

theorem ClassBuilder.visitAll_eq_foldl (events : List (Event × List (String × ElementValue))) :
    ∀ b : ClassBuilder,
      (b.visitAll events).1 = events.foldl (fun b x => (b.visitWith x.1 x.2).1) b := by
  induction events with
  | nil => exact fun _ => rfl
  | cons x events ih => exact fun b => ih (b.visitWith x.1 x.2).1

namespace ClassEvent

/-- The events of a class, one kind after the other. -/
def inKinds (header : ClassHeader) (annotations : List AnnotationEvent)
    (fields : List (FieldDecl × List AnnotationEvent))
    (methods : List (MethodDecl × List (MethodTarget × AnnotationEvent))) : List ClassEvent :=
  .header header :: (annotations.map .annotated ++ fields.map (fun x => .field x.1 x.2) ++
    methods.map (fun x => .method x.1 x.2))

variable (header : ClassHeader) (annotations : List AnnotationEvent)
  (fields : List (FieldDecl × List AnnotationEvent))
  (methods : List (MethodDecl × List (MethodTarget × AnnotationEvent)))

theorem annotation?_inKinds :
    (inKinds header annotations fields methods).filterMap (·.annotation?) = annotations := by
  simp [inKinds, List.filterMap_append, List.filterMap_map, annotation?]

theorem field?_inKinds :
    (inKinds header annotations fields methods).filterMap (·.field?) = fields := by
  simp [inKinds, List.filterMap_append, List.filterMap_map, field?]

theorem method?_inKinds :
    (inKinds header annotations fields methods).filterMap (·.method?) = methods := by
  simp [inKinds, List.filterMap_append, List.filterMap_map, method?]

end ClassEvent

namespace ClassFile

open Writer (Reads)

variable {p : Pool} {s : Settings} {f : File}

/-! ## Events of a file -/

/-- The name and value of an element of an annotation. -/
def elementOf (p : Pool) (x : Nat × Element) : Except ReplayError (String × ElementValue) := do
  let name ← p.text x.1
  let v ← value p x.2
  return (name, v)

/-- The event of an annotation. -/
def annotationEvent (p : Pool) (x : AnnotationItem × Bool) :
    Except ReplayError AnnotationEvent := do
  let descriptor ← p.text x.1.type
  let values ← x.1.pairs.mapM (elementOf p)
  return ⟨descriptor, x.2, values⟩

/-- The event of an annotation of a parameter. -/
def parameterEvent (p : Pool) (x : Nat × AnnotationItem × Bool) :
    Except ReplayError (MethodTarget × AnnotationEvent) := do
  let a ← annotationEvent p x.2
  return (.parameter x.1, a)

/-- The declaration of a field and the events of its annotations. -/
def fieldEvents (s : Settings) (p : Pool) (m : Member) :
    Except ReplayError (FieldDecl × List AnnotationEvent) := do
  let decl ← fieldOf p m
  let own ← (annotationsOf s m.attributes).mapM (annotationEvent p)
  return (decl, own)

/-- The declaration of a method and the events of its annotations, and of those of its
    parameters. -/
def methodEvents (s : Settings) (p : Pool) (m : Member) :
    Except ReplayError (MethodDecl × List (MethodTarget × AnnotationEvent)) := do
  let decl ← methodOf p m
  let own ← (annotationsOf s m.attributes).mapM (annotationEvent p)
  let ofParameters ← (parameterAnnotationsOf s m.attributes).mapM (parameterEvent p)
  return (decl, own.map (.method, ·) ++ ofParameters)

theorem return_eq_ok_iff {α : Type} {a b : α} :
    (return a : Except ReplayError α) = .ok b ↔ a = b :=
  ⟨Except.ok.inj, congrArg Except.ok⟩

theorem elementOf_eq_ok_iff {x : Nat × Element} {y : String × ElementValue} :
    elementOf p x = .ok y ↔ p.text x.1 = .ok y.1 ∧ value p x.2 = .ok y.2 := by
  simp only [elementOf, bind_eq_ok_iff, return_eq_ok_iff]
  constructor
  · rintro ⟨name, hname, v, hv, rfl⟩
    exact ⟨hname, hv⟩
  · exact fun h => ⟨y.1, h.1, y.2, h.2, rfl⟩

theorem annotationEvent_eq_ok_iff {x : AnnotationItem × Bool} {a : AnnotationEvent} :
    annotationEvent p x = .ok a ↔
      p.text x.1.type = .ok a.descriptor ∧ x.2 = a.visible ∧ Reads p x.1.pairs a.values := by
  simp only [annotationEvent, bind_eq_ok_iff, return_eq_ok_iff, mapM_eq_ok_iff,
    elementOf_eq_ok_iff]
  constructor
  · rintro ⟨d, hd, ys, hys, rfl⟩
    exact ⟨hd, rfl, hys⟩
  · obtain ⟨d, visible, ys⟩ := a
    rintro ⟨hd, rfl, hys⟩
    exact ⟨d, hd, ys, hys, rfl⟩

theorem parameterEvent_eq_ok_iff {x : Nat × AnnotationItem × Bool}
    {y : MethodTarget × AnnotationEvent} :
    parameterEvent p x = .ok y ↔ y.1 = .parameter x.1 ∧ annotationEvent p x.2 = .ok y.2 := by
  simp only [parameterEvent, bind_eq_ok_iff, return_eq_ok_iff]
  constructor
  · rintro ⟨a, ha, rfl⟩
    exact ⟨rfl, ha⟩
  · obtain ⟨target, a⟩ := y
    rintro ⟨rfl, ha⟩
    exact ⟨a, ha, rfl⟩

theorem fieldEvents_eq_ok_iff {m : Member} {x : FieldDecl × List AnnotationEvent} :
    fieldEvents s p m = .ok x ↔ fieldOf p m = .ok x.1 ∧
      (annotationsOf s m.attributes).mapM (annotationEvent p) = .ok x.2 := by
  simp only [fieldEvents, bind_eq_ok_iff, return_eq_ok_iff]
  constructor
  · rintro ⟨decl, hdecl, own, hown, rfl⟩
    exact ⟨hdecl, hown⟩
  · exact fun h => ⟨x.1, h.1, x.2, h.2, rfl⟩

theorem methodEvents_eq_ok_iff {m : Member}
    {x : MethodDecl × List (MethodTarget × AnnotationEvent)} :
    methodEvents s p m = .ok x ↔ methodOf p m = .ok x.1 ∧ ∃ own ofParameters,
      (annotationsOf s m.attributes).mapM (annotationEvent p) = .ok own ∧
      (parameterAnnotationsOf s m.attributes).mapM (parameterEvent p) = .ok ofParameters ∧
      x.2 = own.map (.method, ·) ++ ofParameters := by
  simp only [methodEvents, bind_eq_ok_iff, return_eq_ok_iff]
  constructor
  · rintro ⟨decl, hdecl, own, hown, ofParameters, hparameters, rfl⟩
    exact ⟨hdecl, own, ofParameters, hown, hparameters, rfl⟩
  · obtain ⟨decl, events⟩ := x
    rintro ⟨hdecl, own, ofParameters, hown, hparameters, rfl⟩
    exact ⟨decl, hdecl, own, hown, ofParameters, hparameters, rfl⟩

/-! ## Deliveries to a builder -/

namespace Delivery

variable {ε : Type}

/-- If the delivery ends well, something was looked up, and the builder has taken it. -/
def Takes (d : Delivery (ClassBuilder × Sink) Unit) (look : Except ReplayError ε)
    (take : ClassBuilder → ε → ClassBuilder) : Prop :=
  ∀ q t, d.run.run q = (.ok (), t) → ∃ e, look = .ok e ∧ t.1 = take q.1 e

/-- What is taken one by one is taken as a list. -/
theorem Takes.forM {ι : Type} {d : ι → Delivery (ClassBuilder × Sink) Unit}
    {look : ι → Except ReplayError ε} {take : ClassBuilder → ε → ClassBuilder}
    (h : ∀ x, Takes (d x) (look x) take) (xs : List ι) :
    Takes (xs.forM d) (xs.mapM look) fun b es => es.foldl take b := by
  intro q t hrun
  simp only [mapM_eq_ok_iff]
  induction xs generalizing q with
  | nil =>
    cases hrun
    exact ⟨[], .nil, rfl⟩
  | cons x xs ih =>
    obtain ⟨_, u, hx, hxs⟩ := exists_run_of_bind hrun
    obtain ⟨e, he, hu⟩ := h x q u hx
    obtain ⟨es, hes, ht⟩ := ih u hxs
    exact ⟨e :: es, .cons he hes, by rw [ht, hu, List.foldl_cons]⟩

/-- A lookup leaves the visitor as it is. -/
theorem exists_run_of_lookedUp {σ α β : Type} {r : Except ReplayError α} {k : α → Delivery σ β}
    {b : β} {q t : σ} (h : (lookedUp r >>= k).run.run q = (.ok b, t)) :
    ∃ a, r = .ok a ∧ (k a).run.run q = (.ok b, t) := by
  obtain ⟨a, u, ha, h⟩ := exists_run_of_bind h
  cases eq_ok_of_lookedUp ha
  cases ha
  exact ⟨a, rfl, h⟩

/-- An event that is delivered is accepted. -/
theorem visitWith_of_event {e : Event} {q t : ClassBuilder × Sink} {u : Unit}
    (h : (event ClassBuilder.visitor e).run.run q = (.ok u, t)) :
    q.1.visitWith e [] = (t.1, .ok ()) := by
  have hfeed := (Follows.event ClassBuilder.visitor e).run_eq_ok_iff.1 h
  obtain ⟨sink', hfeed'⟩ := ClassBuilder.visitor_feed_annotation q.1 q.2 e []
  have heq := hfeed'.symm.trans hfeed
  exact Prod.ext (congrArg (·.1.1) heq) (congrArg (·.2) heq)

theorem takes_annotated (makeEvent : String → Bool → Event) (x : AnnotationItem × Bool) :
    Takes (annotated ClassBuilder.visitor p x.1 (makeEvent · x.2)) (annotationEvent p x)
      fun b a => (b.visitWith (makeEvent a.descriptor a.visible) a.values).1 := by
  intro q t h
  obtain ⟨d, ys, hd, hys, hfeed⟩ := (annotated_eq_ok_iff x.1 (makeEvent · x.2)).1 h
  obtain ⟨sink', hfeed'⟩ := ClassBuilder.visitor_feed_annotation q.1 q.2 (makeEvent d x.2) ys
  exact ⟨⟨d, x.2, ys⟩, annotationEvent_eq_ok_iff.2 ⟨hd, rfl, hys⟩,
    congrArg (·.1.1) (hfeed.symm.trans hfeed')⟩

theorem takes_parameter (x : Nat × AnnotationItem × Bool) :
    Takes (annotated ClassBuilder.visitor p x.2.1 (.parameterAnnotated x.1 · x.2.2))
      (parameterEvent p x)
      fun b y => (b.visitWith (Session.methodEvent y).1 (Session.methodEvent y).2).1 := by
  intro q t h
  obtain ⟨a, ha, ht⟩ := takes_annotated (.parameterAnnotated x.1) x.2 q t h
  exact ⟨(.parameter x.1, a), parameterEvent_eq_ok_iff.2 ⟨rfl, ha⟩, ht⟩

theorem takes_field (s : Settings) (m : Member) :
    Takes (field ClassBuilder.visitor s p m) (fieldEvents s p m)
      fun b x => (b.feed (.field x.1 x.2)).1 := by
  intro q t h
  obtain ⟨decl, hdecl, h⟩ := exists_run_of_lookedUp h
  obtain ⟨_, u, hevent, h⟩ := exists_run_of_bind h
  obtain ⟨own, hown, ht⟩ := Takes.forM (takes_annotated .fieldAnnotated) _ u t h
  refine ⟨(decl, own), fieldEvents_eq_ok_iff.2 ⟨hdecl, hown⟩, ?_⟩
  dsimp only
  rw [ht, ClassBuilder.feed, ClassBuilder.visitMember_of_accepted (visitWith_of_event hevent),
    ClassBuilder.visitAll_eq_foldl, List.foldl_map]
  rfl

theorem takes_method (s : Settings) (m : Member) :
    Takes (method ClassBuilder.visitor s p m) (methodEvents s p m)
      fun b x => (b.feed (.method x.1 x.2)).1 := by
  intro q t h
  obtain ⟨decl, hdecl, h⟩ := exists_run_of_lookedUp h
  obtain ⟨_, u, hevent, h⟩ := exists_run_of_bind h
  obtain ⟨_, u', h, h'⟩ := exists_run_of_bind h
  obtain ⟨own, hown, hu'⟩ := Takes.forM (takes_annotated .methodAnnotated) _ u u' h
  obtain ⟨ofParameters, hparameters, ht⟩ := Takes.forM takes_parameter _ u' t h'
  refine ⟨(decl, own.map (.method, ·) ++ ofParameters),
    methodEvents_eq_ok_iff.2 ⟨hdecl, own, ofParameters, hown, hparameters, rfl⟩, ?_⟩
  dsimp only
  rw [ht, hu', ClassBuilder.feed, ClassBuilder.visitMember_of_accepted (visitWith_of_event hevent),
    ClassBuilder.visitAll_eq_foldl, List.foldl_map, List.foldl_append, List.foldl_map]
  rfl

/-- A builder takes the events of a class file kind by kind. -/
theorem foldl_of_file {q t : ClassBuilder × Sink}
    (h : (file ClassBuilder.visitor s f).run.run q = (.ok (), t)) :
    ∃ header own fields methods, headerOf f = .ok header ∧
      (annotationsOf s f.attributes).mapM (annotationEvent f.pool) = .ok own ∧
      (f.fields.filter (wantsMember s)).mapM (fieldEvents s f.pool) = .ok fields ∧
      (f.methods.filter (wantsMember s)).mapM (methodEvents s f.pool) = .ok methods ∧
      t.1 = (ClassEvent.inKinds header own fields methods).foldl (fun b e => (b.feed e).1) q.1 := by
  obtain ⟨header, hheader, h⟩ := exists_run_of_lookedUp h
  obtain ⟨_, u, hevent, h⟩ := exists_run_of_bind h
  obtain ⟨_, u₁, h₁, h⟩ := exists_run_of_bind h
  obtain ⟨_, u₂, h₂, h₃⟩ := exists_run_of_bind h
  obtain ⟨own, hown, hu₁⟩ := Takes.forM (takes_annotated .classAnnotated) _ u u₁ h₁
  obtain ⟨fields, hfields, hu₂⟩ := Takes.forM (takes_field s) _ u₁ u₂ h₂
  obtain ⟨methods, hmethods, ht⟩ := Takes.forM (takes_method s) _ u₂ t h₃
  refine ⟨header, own, fields, methods, hheader, hown, hfields, hmethods, ?_⟩
  have hu : u.1 = (q.1.feed (.header header)).1 := by
    rw [ClassBuilder.feed, visitWith_of_event hevent]
  rw [ClassEvent.inKinds, List.foldl_cons, List.foldl_append, List.foldl_append, List.foldl_map,
    List.foldl_map, List.foldl_map, ht, hu₂, hu₁, hu]
  rfl

end Delivery

/-! ## Classes that are read -/

/-- **Reading.**  A class that is built from a file is made of the header, the annotations,
    the fields and the methods that are looked up there. -/
theorem model_of_result {bytes : List UInt8} {model : ClassModel}
    (h : (outcomeOf s bytes).result = .ok model) :
    ∃ f header own fields methods, decode bytes = .ok f ∧ headerOf f = .ok header ∧
      (annotationsOf s f.attributes).mapM (annotationEvent f.pool) = .ok own ∧
      (f.fields.filter (wantsMember s)).mapM (fieldEvents s f.pool) = .ok fields ∧
      (f.methods.filter (wantsMember s)).mapM (methodEvents s f.pool) = .ok methods ∧
      model = .ofKinds header own fields methods := by
  obtain ⟨f, b, sink, hf, haccept, hbuild⟩ := exists_build_of_result h
  obtain ⟨header, own, fields, methods, hheader, hown, hfields, hmethods, hb⟩ :=
    Delivery.foldl_of_file haccept
  refine ⟨f, header, own, fields, methods, hf, hheader, hown, hfields, hmethods, ?_⟩
  dsimp only at hb
  rw [hb] at hbuild
  obtain ⟨-, header', hhead, rfl⟩ := ClassBuilder.build_foldl hbuild
  cases hhead
  rw [ClassEvent.field?_inKinds, ClassEvent.annotation?_inKinds, ClassEvent.method?_inKinds]

/-! ## Annotations of parameters -/

/-- The annotations to deliver for a parameter, with their visibility: the lists at its
    index, one after the other. -/
def listsAt (s : Settings) (i : Nat) (attributes : List Attribute) : List (AnnotationItem × Bool) :=
  attributes.flatMap fun
    | .parameterAnnotations visible parameters =>
      if wantsVisibility s visible then (parameters[i]?.getD []).map (·, visible) else []
    | _ => []

/-- What has one mark is the list that stands there, if each list has a mark of its own. -/
theorem filter_marked {α β : Type} {mark : Nat → Nat} (hmark : Function.Injective mark) (k : α → β)
    (lists : List (List α)) (i : Nat) :
    ((lists.mapIdx fun j items => items.map fun a => (mark j, k a)).flatten.filter
      (·.1 = mark i)).map (·.2) = (lists[i]?.getD []).map k := by
  induction lists generalizing mark i with
  | nil => rfl
  | cons items lists ih =>
    have hother {j : Nat} (h : j ≠ i) (items : List α) :
        (items.map fun a => (mark j, k a)).filter (·.1 = mark i) = [] := by
      refine List.filter_eq_nil_iff.2 fun x hx => ?_
      obtain ⟨a, -, rfl⟩ := List.mem_map.1 hx
      simpa using hmark.ne h
    rw [List.mapIdx_cons, List.flatten_cons, List.filter_append, List.map_append]
    cases i with
    | zero =>
      have hrest : (lists.mapIdx fun j items =>
          items.map fun a => (mark (j + 1), k a)).flatten.filter (·.1 = mark 0) = [] := by
        rw [List.filter_flatten, List.flatten_eq_nil_iff]
        intro l hl
        obtain ⟨l', hl', rfl⟩ := List.mem_map.1 hl
        obtain ⟨j, hj, rfl⟩ := List.mem_mapIdx.1 hl'
        exact hother j.succ_ne_zero lists[j]
      rw [hrest]
      simp [List.filter_map, Function.comp_def]
    | succ i =>
      rw [hother i.succ_ne_zero.symm]
      exact ih (hmark.comp Nat.succ_injective) i

theorem parameterAnnotationsOf_at (s : Settings) (i : Nat) (attributes : List Attribute) :
    ((parameterAnnotationsOf s attributes).filter (·.1 = i)).map (·.2) =
      listsAt s i attributes := by
  rw [parameterAnnotationsOf, listsAt, List.filter_flatMap, List.map_flatMap]
  refine List.flatMap_congr fun a _ => ?_
  cases a with
  | parameterAnnotations visible parameters =>
    dsimp only
    split_ifs
    · exact filter_marked Function.injective_id (·, visible) parameters i
    · rfl
  | _ => rfl

/-- What is looked up for a parameter is what is looked up with its index. -/
theorem forall₂_deliveredTo {xs : List (Nat × AnnotationItem × Bool)}
    {ys : List (MethodTarget × AnnotationEvent)}
    (h : List.Forall₂ (fun x y => parameterEvent p x = .ok y) xs ys) (i : Nat) :
    List.Forall₂ (fun x a => annotationEvent p x = .ok a) ((xs.filter (·.1 = i)).map (·.2))
      (deliveredTo (.parameter i) ys) := by
  induction h with
  | nil => exact .nil
  | @cons x y xs ys hxy _ ih =>
    obtain ⟨htarget, ha⟩ := parameterEvent_eq_ok_iff.1 hxy
    rw [List.filter_cons, deliveredTo_cons, htarget]
    by_cases hi : x.1 = i
    · rw [if_pos (decide_eq_true hi), if_pos (congrArg MethodTarget.parameter hi)]
      exact .cons ha ih
    · rw [if_neg (by simpa using hi), if_neg fun h => hi (MethodTarget.parameter.inj h)]
      exact ih

/-- What is delivered for a parameter comes from the lists at its index. -/
theorem mapM_listsAt {m : Member} {x : MethodDecl × List (MethodTarget × AnnotationEvent)}
    (h : methodEvents s p m = .ok x) (i : Nat) :
    (listsAt s i m.attributes).mapM (annotationEvent p) =
      .ok (deliveredTo (.parameter i) x.2) := by
  obtain ⟨-, own, ofParameters, -, hparameters, hx⟩ := methodEvents_eq_ok_iff.1 h
  have hdelivered : deliveredTo (.parameter i) x.2 = deliveredTo (.parameter i) ofParameters := by
    rw [hx, deliveredTo, List.filter_append]
    simp [List.filter_map, deliveredTo]
  rw [hdelivered, mapM_eq_ok_iff, ← parameterAnnotationsOf_at]
  exact forall₂_deliveredTo (mapM_eq_ok_iff.1 hparameters) i

/-! ## Main statement -/

/-- **Parameters of a file.**  A class that is read has one method for each method of its
    file that is wanted, in order.  Each of its parameters has the type of the descriptor,
    and the annotations that come from the lists at its index in the attributes of the
    method; which attributes these are depends on the settings only. -/
theorem parameter_annotations_regrouped {n : Nat} {c : Catalog} {bytes : List UInt8} {e : Entry}
    (h : (read s n c bytes).2 = .ok e) :
    ∃ f, decode bytes = .ok f ∧ List.Forall₂ (fun member m =>
      methodOf f.pool member = .ok m.decl ∧
      ∀ returned types, FieldType.methodTypes m.decl.descriptor = .ok (returned, types) →
        ∃ parameters, m.parameters = .ok parameters ∧ parameters.length = types.length ∧
          ∀ (i : Nat) t, types[i]? = some t → ∃ captured,
            (listsAt s i member.attributes).mapM (annotationEvent f.pool) = .ok captured ∧
            parameters[i]? = some ⟨i, t, .ofEvents captured⟩)
      (f.methods.filter (wantsMember s)) e.model.methods := by
  obtain ⟨f, header, own, fields, methods, hf, -, -, -, hmethods, hmodel⟩ :=
    model_of_result (result_of_read h)
  refine ⟨f, hf, ?_⟩
  rw [hmodel]
  refine List.forall₂_map_right_iff.2 ((mapM_eq_ok_iff.1 hmethods).imp fun member x hx => ?_)
  have hdecl := (MethodModel.scope_ofEvents header.name x.1 x.2).2.1
  rw [hdecl]
  refine ⟨(methodEvents_eq_ok_iff.1 hx).1, fun returned types htypes => ?_⟩
  refine ⟨_, MethodModel.parameters_ofEvents htypes header.name x.2, List.length_mapIdx, ?_⟩
  intro i t ht
  refine ⟨_, mapM_listsAt hx i, ?_⟩
  rw [List.getElem?_mapIdx, ht]
  rfl

/-- A class with a method of two parameters.  It has a visible attribute with lists for
    three parameters, the first of them empty, and an invisible one with lists for two;
    the second parameter has an annotation of the same type in both. -/
def raggedFile : File where
  pool := ⟨[some (.utf8 "a/B"), some (.classRef 1), some (.utf8 "m"), some (.utf8 "(II)V"),
    some (.utf8 "La/A;"), some (.utf8 "RuntimeVisibleParameterAnnotations"), some (.utf8 "x"),
    some (.integer 7), some (.utf8 "RuntimeInvisibleParameterAnnotations")]⟩
  access := ⟨0x21⟩
  thisClass := 2
  superClass := 0
  interfaces := []
  fields := []
  methods := [⟨⟨1⟩, 3, 4, [.parameterAnnotations true [[], [⟨5, []⟩], [⟨5, []⟩]],
    .parameterAnnotations false [[], [⟨5, [(7, .scalar .int 8)]⟩]]]⟩]
  attributes := []

/-- Its bytes. -/
def raggedBytes : List UInt8 :=
  [202, 254, 186, 190, 0, 0, 0, 52, 0, 10, 1, 0, 3, 97, 47, 66, 7, 0, 1, 1, 0, 1, 109, 1, 0, 5, 40,
    73, 73, 41, 86, 1, 0, 5, 76, 97, 47, 65, 59, 1, 0, 34, 82, 117, 110, 116, 105, 109, 101, 86,
    105, 115, 105, 98, 108, 101, 80, 97, 114, 97, 109, 101, 116, 101, 114, 65, 110, 110, 111, 116,
    97, 116, 105, 111, 110, 115, 1, 0, 1, 120, 3, 0, 0, 0, 7, 1, 0, 36, 82, 117, 110, 116, 105,
    109, 101, 73, 110, 118, 105, 115, 105, 98, 108, 101, 80, 97, 114, 97, 109, 101, 116, 101, 114,
    65, 110, 110, 111, 116, 97, 116, 105, 111, 110, 115, 0, 33, 0, 2, 0, 0, 0, 0, 0, 0, 0, 1, 0, 1,
    0, 3, 0, 4, 0, 2, 0, 6, 0, 0, 0, 15, 3, 0, 0, 0, 1, 0, 5, 0, 0, 0, 1, 0, 5, 0, 0, 0, 9, 0, 0,
    0, 14, 2, 0, 0, 0, 1, 0, 5, 0, 1, 0, 7, 73, 0, 8, 0, 0]

set_option maxRecDepth 10000 in
/-- Both parameters have what comes from their lists, the second only what came last. -/
theorem parameter_annotations_regrouped_ragged :
    decode raggedBytes = .ok raggedFile ∧ ∃ e m parameters,
      (read {} 0 .empty raggedBytes).2 = .ok e ∧ e.model.methods = [m] ∧
      m.parameters = .ok parameters ∧ parameters.length = 2 ∧
      parameters[0]? = some ⟨0, "int", .empty⟩ ∧
      parameters[1]? = some ⟨1, "int", ⟨[("a.A", [("x", .int 7)])]⟩⟩ := by
  have hdecode : decode raggedBytes = .ok raggedFile := rfl
  obtain ⟨model, hmodel⟩ : ∃ model, (buildOf {} raggedFile).result = .ok model :=
    exists_of_isSome_toOption (by decide +kernel)
  have hread : (read {} 0 .empty raggedBytes).2 = .ok ⟨0, model⟩ := by
    rw [read_alone, outcomeOf, hdecode]
    exact congrArg (Except.map _) hmodel
  obtain ⟨f, hf, hall⟩ := parameter_annotations_regrouped hread
  cases hdecode.symm.trans hf
  obtain ⟨m, ms, ⟨hdecl, hparameters⟩, hms, hmethods⟩ := List.forall₂_cons_left_iff.1 hall
  cases hms
  have hdescriptor : m.decl.descriptor = "(II)V" :=
    congrArg (·.descriptor) (Except.ok.inj hdecl).symm
  have htypes : FieldType.methodTypes m.decl.descriptor = .ok ("void", ["int", "int"]) := by
    rw [hdescriptor]
    decide
  obtain ⟨parameters, hok, hlength, hat⟩ := hparameters _ _ htypes
  obtain ⟨first, hfirst, h₀⟩ := hat 0 "int" rfl
  obtain ⟨second, hsecond, h₁⟩ := hat 1 "int" rfl
  cases hfirst
  cases hsecond
  exact ⟨hdecode, _, m, parameters, hread, hmethods, hok, hlength, h₀, h₁⟩

end ClassFile

end ClassCatalog
