/-
  Annotations of a method and of its parameters.

  They come in any order, and also for indices at which the method has no parameter.

  * `mem_deliveredTo`, `deliveredTo_swap`, `deliveredTo_filter`: what is delivered to one
    target, and what leaves it as it is;
  * `MethodModel.parameters_ofEvents`: the parameters that a built method shows;
  * `targets_apart`: the method and each of its parameters have the annotations that were
    delivered to them, as if nothing else had been; only the order of these matters, and
    those for further indices do not show.
-/
import ClassCatalog.Proofs.Capture

namespace ClassCatalog

/-! ## Targets -/

section

variable {events : List (MethodTarget × AnnotationEvent)} {target : MethodTarget}

theorem mem_deliveredTo {a : AnnotationEvent} :
    a ∈ deliveredTo target events ↔ (target, a) ∈ events := by
  simp [deliveredTo]

/-- Two annotations of different targets may change places. -/
theorem deliveredTo_swap (before after : List (MethodTarget × AnnotationEvent))
    {x y : MethodTarget × AnnotationEvent} (h : x.1 ≠ y.1) :
    deliveredTo target (before ++ y :: x :: after) =
      deliveredTo target (before ++ x :: y :: after) := by
  induction before with
  | nil =>
    rw [List.nil_append, List.nil_append]
    simp only [deliveredTo_cons]
    split_ifs with hy hx
    · exact absurd (hx.trans hy.symm) h
    · rfl
    · rfl
    · rfl
  | cons z before ih =>
    rw [List.cons_append, List.cons_append, deliveredTo_cons, deliveredTo_cons, ih]

/-- Annotations of other targets may be left out. -/
theorem deliveredTo_filter {p : MethodTarget → Bool} (h : p target) :
    deliveredTo target (events.filter fun x => p x.1) = deliveredTo target events := by
  rw [deliveredTo, deliveredTo, List.filter_filter]
  refine congrArg (List.map _) (List.filter_congr fun x _ => ?_)
  by_cases hx : x.1 = target
  · simp [hx, h]
  · simp [hx]

end

/-- The target is the method itself, or one of so many parameters. -/
def MethodTarget.within (n : Nat) : MethodTarget → Bool
  | method => true
  | parameter i => i < n

/-! ## Parameters -/

namespace MethodModel

variable {decl : MethodDecl} {returned : String} {types : List String}

/-- The parameters have the types of the descriptor, in order, and the annotations that
    were delivered to them. -/
theorem parameters_ofEvents (h : FieldType.methodTypes decl.descriptor = .ok (returned, types))
    (owner : String) (events : List (MethodTarget × AnnotationEvent)) :
    (ofEvents owner decl events).parameters = .ok (types.mapIdx fun i t =>
      ⟨i, t, .ofEvents (deliveredTo (.parameter i) events)⟩) := by
  obtain ⟨-, hdecl, hscope⟩ := scope_ofEvents owner decl events
  rw [parameters, parameterTypes, hdecl, h]
  refine congrArg Except.ok (congrArg (List.mapIdx · types) ?_)
  funext i t
  exact congrArg (ParameterModel.mk i t) (hscope (.parameter i))

/-- Nothing that can be asked of the methods tells one from the other. -/
structure Alike (m m' : MethodModel) : Prop where
  owner : m.owner = m'.owner
  decl : m.decl = m'.decl
  annotations : m.annotations = m'.annotations
  parameters : m.parameters = m'.parameters

/-- Methods are alike if they had the same annotations wherever they show them. -/
theorem alike_ofEvents (h : FieldType.methodTypes decl.descriptor = .ok (returned, types))
    (owner : String) {events events' : List (MethodTarget × AnnotationEvent)}
    (hd : ∀ target, target.within types.length →
      deliveredTo target events' = deliveredTo target events) :
    (ofEvents owner decl events').Alike (ofEvents owner decl events) := by
  obtain ⟨ho, hdecl, hscope⟩ := scope_ofEvents owner decl events
  obtain ⟨ho', hdecl', hscope'⟩ := scope_ofEvents owner decl events'
  refine ⟨ho'.trans ho.symm, hdecl'.trans hdecl.symm, ?_, ?_⟩
  · have hmethod := hd .method rfl
    exact ((hscope' .method).trans (congrArg Scope.ofEvents hmethod)).trans (hscope .method).symm
  · rw [parameters_ofEvents h, parameters_ofEvents h]
    refine congrArg Except.ok (List.mapIdx_eq_mapIdx_iff.2 fun i hi => ?_)
    rw [hd (.parameter i) (decide_eq_true hi)]

end MethodModel

/-! ## Main statement -/

/-- The field that is built of a declaration and the annotations delivered to it. -/
def FieldBuilder.built (owner : String) (decl : FieldDecl) (events : List AnnotationEvent) :
    Except BuildError FieldModel :=
  build (Latched.run capture (ofDecl owner decl) events).1

/-- The method that is built of a declaration and the annotations delivered to it and to
    its parameters. -/
def MethodBuilder.built (owner : String) (decl : MethodDecl)
    (events : List (MethodTarget × AnnotationEvent)) : Except BuildError MethodModel :=
  build (Latched.run captureAt (ofDecl owner decl) events).1

/-- **Targets.**  A built method shows one parameter for each type of its descriptor, with
    that type and with the annotations that were delivered for the index; it shows as its
    own those that were delivered to the method.  Each target has what a field would have
    of these alone.  The method is alike if annotations of different targets change places,
    if those for an index beyond the parameters are left out, and whatever else is accepted
    there. -/
theorem targets_apart {owner : String} {decl : MethodDecl}
    {events : List (MethodTarget × AnnotationEvent)} {m : MethodModel} {returned : String}
    {types : List String} (hbuilt : MethodBuilder.built owner decl events = .ok m)
    (htypes : FieldType.methodTypes decl.descriptor = .ok (returned, types)) :
    m.parameterTypes = .ok types ∧
    m.annotations = .ofEvents (deliveredTo .method events) ∧
    (∃ parameters, m.parameters = .ok parameters ∧ parameters.length = types.length ∧
      ∀ (i : Nat) t, types[i]? = some t →
        parameters[i]? = some ⟨i, t, .ofEvents (deliveredTo (.parameter i) events)⟩) ∧
    (∀ target field, ∃ f, FieldBuilder.built owner field (deliveredTo target events) = .ok f ∧
      f.annotations = .ofEvents (deliveredTo target events)) ∧
    (∀ events', (∀ target, deliveredTo target events' = deliveredTo target events) →
      ∃ m', MethodBuilder.built owner decl events' = .ok m' ∧ m'.Alike m) ∧
    (∃ m', MethodBuilder.built owner decl (events.filter (·.1.within types.length)) = .ok m' ∧
      m'.Alike m) ∧
    ∀ events' m', (∀ target : MethodTarget, target.within types.length →
        deliveredTo target events' = deliveredTo target events) →
      MethodBuilder.built owner decl events' = .ok m' → m'.Alike m := by
  obtain ⟨hnone, rfl⟩ := MethodBuilder.build_run_eq_ok_iff.1 hbuilt
  obtain ⟨-, hdecl, hscope⟩ := MethodModel.scope_ofEvents owner decl events
  refine ⟨?_, hscope .method, ?_, ?_, ?_, ?_, ?_⟩
  · rw [MethodModel.parameterTypes, hdecl, htypes]
    rfl
  · refine ⟨_, MethodModel.parameters_ofEvents htypes owner events, List.length_mapIdx, ?_⟩
    intro i t ht
    rw [List.getElem?_mapIdx, ht]
    rfl
  · intro target field
    exact ⟨_, FieldBuilder.build_run_eq_ok_iff.2 ⟨refusal?_of_deliveredTo hnone target, rfl⟩, rfl⟩
  · intro events' hsame
    have hnone' : ∀ x ∈ events', x.2.refusal? = none := by
      intro x hx
      have hmem : x.2 ∈ deliveredTo x.1 events := hsame x.1 ▸ mem_deliveredTo.2 hx
      exact hnone x (mem_deliveredTo.1 hmem)
    exact ⟨_, MethodBuilder.build_run_eq_ok_iff.2 ⟨hnone', rfl⟩,
      MethodModel.alike_ofEvents htypes owner fun target _ => hsame target⟩
  · have hnone' : ∀ x ∈ events.filter (·.1.within types.length), x.2.refusal? = none :=
      fun x hx => hnone x (List.mem_filter.1 hx).1
    exact ⟨_, MethodBuilder.build_run_eq_ok_iff.2 ⟨hnone', rfl⟩,
      MethodModel.alike_ofEvents htypes owner fun target => deliveredTo_filter⟩
  · intro events' m' hsame hbuilt'
    obtain ⟨-, rfl⟩ := MethodBuilder.build_run_eq_ok_iff.1 hbuilt'
    exact MethodModel.alike_ofEvents htypes owner hsame

/-- Annotations of a method and its parameters, the same type each time. -/
def interleavedAnnotations : List (MethodTarget × AnnotationEvent) :=
  [(.parameter 7, ⟨"La/A;", true, []⟩), (.parameter 1, ⟨"La/A;", true, [("x", .int 1)]⟩),
    (.method, ⟨"La/A;", false, [("x", .int 2)]⟩),
    (.parameter 1, ⟨"La/A;", false, [("y", .int 3)]⟩)]

/-- A method with two parameters and an annotation for an eighth one; two annotations of
    different targets that change places. -/
theorem targets_apart_interleaved :
    let decl : MethodDecl := ⟨⟨0⟩, "m", "(IJ)V", none, []⟩
    FieldType.methodTypes decl.descriptor = .ok ("void", ["int", "long"]) ∧
    ∃ m, MethodBuilder.built "a/B" decl interleavedAnnotations = .ok m ∧
      m.annotations = ⟨[("a.A", [("x", .int 2)])]⟩ ∧
      (∃ parameters, m.parameters = .ok parameters ∧ parameters.length = 2 ∧
        parameters[0]? = some ⟨0, "int", .empty⟩ ∧
        parameters[1]? = some ⟨1, "long", ⟨[("a.A", [("y", .int 3)])]⟩⟩) ∧
      (∃ m', MethodBuilder.built "a/B" decl
          ([(.parameter 7, ⟨"La/A;", true, []⟩), (.method, ⟨"La/A;", false, [("x", .int 2)]⟩)] ++
            [(.parameter 1, ⟨"La/A;", true, [("x", .int 1)]⟩),
              (.parameter 1, ⟨"La/A;", false, [("y", .int 3)]⟩)]) = .ok m' ∧ m'.Alike m) ∧
      ∃ m', MethodBuilder.built "a/B" decl (interleavedAnnotations.drop 1) = .ok m' ∧
        m'.Alike m := by
  intro decl
  have htypes : FieldType.methodTypes decl.descriptor = .ok ("void", ["int", "long"]) := by decide
  obtain ⟨m, hbuilt⟩ : ∃ m, MethodBuilder.built "a/B" decl interleavedAnnotations = .ok m :=
    ⟨_, rfl⟩
  obtain ⟨-, hown, ⟨parameters, hparameters, hlength, hat⟩, -, hsame, hwithin, -⟩ :=
    targets_apart hbuilt htypes
  exact ⟨htypes, m, hbuilt, hown, ⟨parameters, hparameters, hlength, hat 0 _ rfl, hat 1 _ rfl⟩,
    hsame _ fun _ => deliveredTo_swap [_] [_] nofun, hwithin⟩

end ClassCatalog
