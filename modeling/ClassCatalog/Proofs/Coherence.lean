/-
  What a class under construction knows of itself.

  * `constructorsAt`: where the constructors stand among the methods of a class;
  * `ClassDraft.Coherent`: the names of a class fit together, its members name it as
    their owner, and the positions that were noted are those of its constructors;
  * `Coherent.visit`, `Coherent.record`: every event keeps a builder coherent, so it is
    after any run of events (`Coherent.feed`, `Coherent.visitor_feed`);
  * `Coherent.build`, `coherent_outcomeOf`: what is built is coherent as well.
-/
import ClassCatalog.Proofs.Construction

namespace ClassCatalog

/-! ## Constructors among methods -/

/-- The positions of the constructors among the declarations of methods. -/
def constructorsAt (decls : List MethodDecl) : List Nat :=
  (List.range decls.length).filter fun i => decls[i]?.any (·.isConstructor)

theorem constructorsAt_concat (decls : List MethodDecl) (d : MethodDecl) :
    constructorsAt (decls ++ [d]) =
      constructorsAt decls ++ if d.isConstructor then [decls.length] else [] := by
  have hold : ∀ i ∈ List.range decls.length,
      (decls ++ [d])[i]?.any (·.isConstructor) = decls[i]?.any (·.isConstructor) := by
    intro i hi
    rw [List.getElem?_append_left (List.mem_range.1 hi)]
  rw [constructorsAt, List.length_append, List.length_singleton, List.range_succ,
    List.filter_append, List.filter_congr hold, ← constructorsAt, List.filter_singleton,
    List.getElem?_concat_length, Option.any_some]
  cases d.isConstructor <;> rfl

/-- Positions are noted in increasing order. -/
theorem constructorsAt_increasing (decls : List MethodDecl) :
    (constructorsAt decls).Pairwise (· < ·) :=
  List.pairwise_lt_range.filter _

/-- At each position that is noted there is a constructor. -/
theorem mem_constructorsAt {decls : List MethodDecl} {i : Nat} :
    i ∈ constructorsAt decls ↔ ∃ d, decls[i]? = some d ∧ d.isConstructor = true := by
  rw [constructorsAt, List.mem_filter, List.mem_range, Option.any_eq_true]
  constructor
  · exact And.right
  · rintro ⟨d, hd, hc⟩
    exact ⟨(List.getElem?_eq_some_iff.1 hd).1, d, hd, hc⟩

/-! ## Coherent drafts -/

namespace ClassDraft

/-- The declarations of the methods, in order. -/
def methodDecls (d : ClassDraft) : List MethodDecl := d.methods.reverse.map (·.state.decl)

/-- The names of the class fit together, the members name it as their owner, and the
    positions noted are those of the constructors. -/
structure Coherent (d : ClassDraft) : Prop where
  parts : ∀ i, d.identity? = some i → Name.Parts i.qualifiedName i.packageName i.nestedName
  fields : ∀ f ∈ d.fields, d.name? = some f.state.owner
  methods : ∀ m ∈ d.methods, d.name? = some m.state.owner
  positions : d.constructorPositions = constructorsAt d.methodDecls

theorem coherent_new (settings : Settings) : Coherent { settings } := by
  refine ⟨fun i hi => ?_, fun f hf => ?_, fun m hm => ?_, rfl⟩
  · cases hi
  · cases hf
  · cases hm

theorem parts_of_identify {d : ClassDraft} {h : ClassHeader} {i : Identity}
    (hi : d.identify h = .ok i) : Name.Parts i.qualifiedName i.packageName i.nestedName := by
  unfold identify at hi
  split at hi
  · cases hi
  · dsimp only at hi
    split at hi
    · rename_i hs
      cases hi
      exact Name.parts_of_split hs
    · rename_i hs
      split_ifs at hi
      cases hi
      exact Name.parts_of_split_eq_none hs

variable {d d' : ClassDraft} {sink : Sink}

/-- A draft takes its header before it has members. -/
theorem Coherent.header (hd : d.Coherent) {h : ClassHeader} (he : d.header h = .ok (d', sink)) :
    d'.Coherent := by
  rcases d.header_cases h with ⟨e, -, herr⟩ | ⟨i, -, hnone, -, hok⟩
  · cases herr.symm.trans he
  · have hname : d.name? = none := by rw [name?, hnone]; rfl
    obtain ⟨j, hj, heq⟩ := exists_of_map_eq_ok he
    cases heq
    refine ⟨fun k hk => ?_, fun f hf => ?_, fun m hm => ?_, hd.positions⟩
    · cases hk
      exact parts_of_identify hj
    · cases hname.symm.trans (hd.fields f hf)
    · cases hname.symm.trans (hd.methods m hm)

theorem Coherent.annotate (hd : d.Coherent) {descriptor : String} {visible : Bool}
    (he : d.annotate descriptor visible = .ok (d', sink)) : d'.Coherent := by
  rcases d.annotate_cases ⟨descriptor, visible, []⟩ with ⟨e, -, herr⟩ | ⟨scope, t, -, hok⟩
  · cases herr.symm.trans he
  · cases hok.symm.trans he
    exact ⟨hd.parts, hd.fields, hd.methods, hd.positions⟩

theorem Coherent.field (hd : d.Coherent) {decl : FieldDecl}
    (he : d.field decl = .ok (d', sink)) : d'.Coherent := by
  unfold ClassDraft.field at he
  rcases d.owner_cases .field with ⟨-, ho⟩ | ⟨name, hn, ho⟩ <;> rw [ho] at he <;> cases he
  refine ⟨hd.parts, fun f hf => ?_, hd.methods, hd.positions⟩
  rcases List.mem_cons.1 hf with rfl | hf
  · exact hn
  · exact hd.fields f hf

/-- The position of a constructor is noted as the method is taken. -/
theorem Coherent.method (hd : d.Coherent) {decl : MethodDecl}
    (he : d.method decl = .ok (d', sink)) : d'.Coherent := by
  unfold ClassDraft.method at he
  rcases d.owner_cases .method with ⟨-, ho⟩ | ⟨name, hn, ho⟩ <;> rw [ho] at he <;> cases he
  refine ⟨hd.parts, hd.fields, fun m hm => ?_, ?_⟩
  · rcases List.mem_cons.1 hm with rfl | hm
    · exact hn
    · exact hd.methods m hm
  · have hlength : d.methodDecls.length = d.methods.length := by simp [methodDecls]
    have hdecls : methodDecls { d with methods := MethodBuilder.ofDecl name decl :: d.methods } =
        d.methodDecls ++ [decl] := by
      rw [methodDecls, List.reverse_cons, List.map_append]
      rfl
    refine Eq.trans ?_ (congrArg constructorsAt hdecls).symm
    rw [constructorsAt_concat, ← hd.positions, hlength]
    dsimp only
    split_ifs
    · rfl
    · exact (List.append_nil _).symm

/-- What is recorded of a field leaves its owner. -/
theorem Coherent.onField (hd : d.Coherent) {g : FieldBuilder → FieldBuilder}
    (hg : ∀ f, d.fields.head? = some f → (g f).state.owner = f.state.owner) :
    (d.onField g).Coherent := by
  obtain ⟨settings, identity?, fields, methods, positions, annotations⟩ := d
  cases fields with
  | nil => exact hd
  | cons f fs =>
    refine ⟨hd.parts, fun f' hf' => ?_, hd.methods, hd.positions⟩
    rcases List.mem_cons.1 hf' with rfl | hf'
    · exact (hd.fields f List.mem_cons_self).trans (congrArg some (hg f rfl).symm)
    · exact hd.fields f' (List.mem_cons_of_mem _ hf')

/-- What is recorded of a method leaves its owner and declaration. -/
theorem Coherent.onMethod (hd : d.Coherent) {g : MethodBuilder → MethodBuilder}
    (hg : ∀ m, d.methods.head? = some m →
      (g m).state.owner = m.state.owner ∧ (g m).state.decl = m.state.decl) :
    (d.onMethod g).Coherent := by
  obtain ⟨settings, identity?, fields, methods, positions, annotations⟩ := d
  cases methods with
  | nil => exact hd
  | cons m ms =>
    refine ⟨hd.parts, hd.fields, fun m' hm' => ?_, hd.positions.trans (congrArg constructorsAt ?_)⟩
    · rcases List.mem_cons.1 hm' with rfl | hm'
      · exact (hd.methods m List.mem_cons_self).trans (congrArg some (hg m rfl).1.symm)
      · exact hd.methods m' (List.mem_cons_of_mem _ hm')
    · simp only [methodDecls, ClassDraft.onMethod, List.reverse_cons, List.map_append,
        List.map_singleton, (hg m rfl).2]

end ClassDraft

/-! ## Events -/

theorem FieldBuilder.owner_annotate (f : FieldBuilder) (descriptor : String) (visible : Bool) :
    (f.annotate descriptor visible).1.state.owner = f.state.owner := by
  unfold annotate
  rcases f.deliver_cases _ with ⟨s, t, hs, hd⟩ | ⟨f', e, hd, hf⟩ <;> rw [hd]
  · obtain ⟨p, -, hp⟩ := exists_of_map_eq_ok hs
    cases hp
    rfl
  · exact congrArg FieldModel.owner hf

theorem MethodModel.onScope_kept (m : MethodModel) (g : Scope → Scope) (target : MethodTarget) :
    (m.onScope g target).owner = m.owner ∧ (m.onScope g target).decl = m.decl := by
  cases target <;> exact ⟨rfl, rfl⟩

theorem MethodBuilder.kept_annotate (m : MethodBuilder) (target : MethodTarget)
    (descriptor : String) (visible : Bool) :
    (m.annotate target descriptor visible).1.state.owner = m.state.owner ∧
      (m.annotate target descriptor visible).1.state.decl = m.state.decl := by
  unfold annotate
  rcases m.deliver_cases _ with ⟨s, t, hs, hd⟩ | ⟨m', e, hd, hm⟩ <;> rw [hd]
  · obtain ⟨p, -, hp⟩ := exists_of_map_eq_ok hs
    cases hp
    exact m.state.onScope_kept _ target
  · exact ⟨congrArg MethodModel.owner hm, congrArg MethodModel.decl hm⟩

namespace ClassBuilder

variable {b : ClassBuilder}

/-- The draft of a builder is coherent. -/
def Coherent (b : ClassBuilder) : Prop := b.state.Coherent

theorem coherent_ofSettings (settings : Settings) : (ofSettings settings).Coherent :=
  ClassDraft.coherent_new settings

theorem Coherent.deliver (h : b.Coherent)
    {event : ClassDraft → Except BuildError (ClassDraft × Sink)}
    (he : ∀ {d' sink}, event b.state = .ok (d', sink) → d'.Coherent) :
    Coherent (b.deliver event).1 := by
  rcases b.deliver_cases event with ⟨s, sink, hs, hd⟩ | ⟨b', e, hd, hb⟩ <;> rw [hd]
  · exact he hs
  · rw [Coherent, hb]
    exact h

theorem Coherent.annotateField (h : b.Coherent) (descriptor : String) (visible : Bool) :
    Coherent (b.annotateField descriptor visible).1 := by
  unfold ClassBuilder.annotateField
  split
  · exact h
  · rename_i f fs hfs
    refine ClassDraft.Coherent.onField h fun f' hf' => ?_
    rw [hfs] at hf'
    cases hf'
    exact f.owner_annotate descriptor visible

theorem Coherent.annotateMethod (h : b.Coherent) (target : MethodTarget) (descriptor : String)
    (visible : Bool) : Coherent (b.annotateMethod target descriptor visible).1 := by
  unfold ClassBuilder.annotateMethod
  split
  · exact h
  · rename_i m ms hms
    refine ClassDraft.Coherent.onMethod h fun m' hm' => ?_
    rw [hms] at hm'
    cases hm'
    exact m.kept_annotate target descriptor visible

/-- **Events.**  Whatever the event and its answer, a builder stays coherent. -/
theorem Coherent.visit (h : b.Coherent) (e : Event) : Coherent (b.visit e).1 := by
  cases e with
  | header header => exact h.deliver (ClassDraft.Coherent.header h)
  | classAnnotated descriptor visible => exact h.deliver (ClassDraft.Coherent.annotate h)
  | field decl => exact h.deliver (ClassDraft.Coherent.field h)
  | method decl => exact h.deliver (ClassDraft.Coherent.method h)
  | fieldAnnotated descriptor visible => exact h.annotateField descriptor visible
  | methodAnnotated descriptor visible => exact h.annotateMethod .method descriptor visible
  | parameterAnnotated i descriptor visible =>
    exact h.annotateMethod (.parameter i) descriptor visible

theorem Coherent.record (h : b.Coherent) (sink : Sink) (name : String) (value : ElementValue) :
    Coherent (b.record sink name value) := by
  cases sink with
  | nowhere => exact h
  | onClass t => exact ⟨h.parts, h.fields, h.methods, h.positions⟩
  | onField t => exact ClassDraft.Coherent.onField h fun f _ => rfl
  | onMethod target t =>
    exact ClassDraft.Coherent.onMethod h fun m _ => m.state.onScope_kept _ target

theorem Coherent.recordAll (h : b.Coherent) (sink : Sink) (values : List (String × ElementValue)) :
    Coherent (b.recordAll sink values) := by
  induction values generalizing b with
  | nil => exact h
  | cons v values ih => exact ih (h.record sink v.1 v.2)

theorem Coherent.visitWith (h : b.Coherent) (e : Event) (values : List (String × ElementValue)) :
    Coherent (b.visitWith e values).1 := by
  have hv := h.visit e
  rcases hr : b.visit e with ⟨b', error | sink⟩ <;> rw [hr] at hv
  · rw [visitWith_of_error hr]
    exact hv
  · rw [visitWith_of_ok hr]
    exact hv.recordAll sink values

theorem Coherent.visitAll (h : b.Coherent) (events : List (Event × List (String × ElementValue))) :
    Coherent (b.visitAll events).1 := by
  induction events generalizing b with
  | nil => exact h
  | cons e events ih => exact ih (h.visitWith e.1 e.2)

theorem Coherent.visitMember (h : b.Coherent) (e : Event)
    (annotations : List (Event × List (String × ElementValue))) :
    Coherent (b.visitMember e annotations).1 := by
  have hv := h.visitWith e []
  rcases hr : b.visitWith e [] with ⟨b', error | u⟩ <;> rw [hr] at hv
  · rw [ClassBuilder.visitMember, hr]
    exact hv
  · rw [visitMember_of_accepted hr]
    exact Coherent.visitAll hv annotations

theorem Coherent.feed (h : b.Coherent) (e : ClassEvent) : Coherent (b.feed e).1 := by
  cases e with
  | header header => exact h.visitWith _ _
  | annotated a => exact h.visitWith _ _
  | field decl annotations => exact h.visitMember _ _
  | method decl annotations => exact h.visitMember _ _

theorem Coherent.visitor_feed (script : List Recorded) {p : ClassBuilder × Sink}
    (h : p.1.Coherent) : (visitor.feed p script).1.1.Coherent := by
  induction script generalizing p with
  | nil => exact h
  | cons x script ih =>
    cases x with
    | event e =>
      have hv := h.visit e
      rcases hr : p.1.visit e with ⟨b, error | sink⟩ <;> rw [hr] at hv
      · rw [Visitor.feed_event_error (visitor_visit_error hr)]
        exact hv
      · rw [Visitor.feed_event_ok (visitor_visit_ok hr)]
        exact ih hv
    | element name value => exact ih (h.record p.2 name value)

end ClassBuilder

/-! ## Built classes -/

/-- The names of the class fit together, its members name it as their owner, and the
    constructors are where its constructor positions say. -/
structure ClassModel.Coherent (c : ClassModel) : Prop where
  qualified : c.qualifiedName = Name.qualified c.name
  parts : Name.Parts c.qualifiedName c.packageName c.nestedName
  fields : ∀ f ∈ c.fields, f.owner = c.name
  methods : ∀ m ∈ c.methods, m.owner = c.name
  positions : c.constructorPositions = constructorsAt (c.methods.map (·.decl))

/-- The members of a built class are those of its draft. -/
theorem ClassDraft.build_members {d : ClassDraft} {model : ClassModel} (h : d.build = .ok model) :
    ∃ i, d.identity? = some i ∧ model = {
      header := i.header
      qualifiedName := i.qualifiedName
      packageName := i.packageName
      nestedName := i.nestedName
      fields := d.fields.reverse.map (·.state)
      methods := d.methods.reverse.map (·.state)
      constructorPositions := d.constructorPositions
      annotations := d.annotations } := by
  have hfields : d.fields.reverse.mapM (fun f : FieldBuilder => f.build) = _ :=
    mapM_complete d.fields.reverse
  have hmethods : d.methods.reverse.mapM (fun m : MethodBuilder => m.build) = _ :=
    mapM_complete d.methods.reverse
  unfold build at h
  split at h
  · cases h
  · rename_i i hi
    rw [hfields, hmethods] at h
    refine ⟨i, hi, ?_⟩
    cases hf : d.fields.reverse.findSome? (fun f : FieldBuilder => f.failure?) with
    | some cause => rw [hf] at h; cases h
    | none =>
      cases hm : d.methods.reverse.findSome? (fun m : MethodBuilder => m.failure?) with
      | some cause => rw [hf, hm] at h; cases h
      | none =>
        rw [hf, hm] at h
        cases h
        rfl

theorem ClassBuilder.Coherent.build {b : ClassBuilder} (h : b.Coherent) {model : ClassModel}
    (hb : b.build = .ok model) : model.Coherent := by
  unfold ClassBuilder.build Latched.complete at hb
  split at hb
  · cases hb
  · obtain ⟨i, hi, rfl⟩ := ClassDraft.build_members hb
    have hname : b.state.name? = some i.header.name := by rw [ClassDraft.name?, hi]; rfl
    refine ⟨i.named, h.parts i hi, fun f hf => ?_, fun m hm => ?_, ?_⟩
    · obtain ⟨f', hf', rfl⟩ := List.mem_map.1 hf
      exact (Option.some.inj (hname.symm.trans (h.fields f' (List.mem_reverse.1 hf')))).symm
    · obtain ⟨m', hm', rfl⟩ := List.mem_map.1 hm
      exact (Option.some.inj (hname.symm.trans (h.methods m' (List.mem_reverse.1 hm')))).symm
    · rw [List.map_map]
      exact h.positions

namespace ClassFile

/-- A class that is built from a file is coherent. -/
theorem coherent_outcomeOf {s : Settings} {bytes : List UInt8} {model : ClassModel}
    (h : (outcomeOf s bytes).result = .ok model) : model.Coherent := by
  obtain ⟨f, b, sink, -, haccept, hb⟩ := exists_build_of_result h
  rw [accept_eq_feed] at haccept
  have hc := ClassBuilder.Coherent.visitor_feed (scriptOf s f) (p := (.ofSettings s, .nowhere))
    (ClassBuilder.coherent_ofSettings s)
  rcases hp : ClassBuilder.visitor.feed (.ofSettings s, .nowhere) (scriptOf s f) with
    ⟨t, error | u⟩ <;> rw [hp] at haccept hc
  · cases haccept
  · obtain rfl : t = (b, sink) := congrArg Prod.snd haccept
    exact hc.build hb

end ClassFile

end ClassCatalog
