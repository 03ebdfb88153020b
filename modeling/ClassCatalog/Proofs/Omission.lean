/-
  What a replay leaves out, and what it does not look at.

  * `ReadAlike`: attributes that differ only in what is not read of them.  The order
    counts within each kind, and attributes of other kinds do not count at all;
    members and files are read alike if their attributes are;
  * `File.stripped`: the file without what the settings leave out;
  * `accept_congr`, `accept_stripped`: files that are read alike are replayed alike,
    and a file is replayed like what is left of it;
  * `accept_omits` puts the two together, for all visitors and for reads.
-/
import ClassCatalog.Proofs.Attributes
import ClassCatalog.Proofs.Construction

namespace ClassCatalog

/-- The settings with nothing left out. -/
def Settings.inclusive (s : Settings) : Settings :=
  { s with includeInvisible := true, includeSynthetic := true }

namespace ClassFile

/-! ## Files that are read alike -/

/-- Of each kind that is read there are the same attributes, in the same order. -/
def ReadAlike (as bs : List Attribute) : Prop :=
  ∀ k, k ≠ .other → ofKind k as = ofKind k bs

/-- The members differ only in what is not read of their attributes. -/
structure Member.ReadAlike (m m' : Member) : Prop where
  access : m.access = m'.access
  name : m.name = m'.name
  descriptor : m.descriptor = m'.descriptor
  attributes : ClassFile.ReadAlike m.attributes m'.attributes

/-- The files differ only in what is not read of their attributes and of those of
    their members. -/
structure File.ReadAlike (f f' : File) : Prop where
  pool : f.pool = f'.pool
  access : f.access = f'.access
  thisClass : f.thisClass = f'.thisClass
  superClass : f.superClass = f'.superClass
  interfaces : f.interfaces = f'.interfaces
  fields : List.Forall₂ Member.ReadAlike f.fields f'.fields
  methods : List.Forall₂ Member.ReadAlike f.methods f'.methods
  attributes : ClassFile.ReadAlike f.attributes f'.attributes

namespace ReadAlike

variable {as bs cs : List Attribute}

theorem refl (as : List Attribute) : ReadAlike as as := fun _ _ => rfl

theorem symm (h : ReadAlike as bs) : ReadAlike bs as := fun k hk => (h k hk).symm

theorem trans (h : ReadAlike as bs) (h' : ReadAlike bs cs) : ReadAlike as cs :=
  fun k hk => (h k hk).trans (h' k hk)

/-- Neighbours of different kinds may change places. -/
theorem swap {a b : Attribute} (hab : a.kind ≠ b.kind) (as bs : List Attribute) :
    ReadAlike (as ++ a :: b :: bs) (as ++ b :: a :: bs) := by
  intro k _
  rw [ofKind_append, ofKind_append]
  congr 1
  unfold ofKind
  by_cases ha : a.kind = k
  · have hb : b.kind ≠ k := fun hb => hab (ha.trans hb.symm)
    simp [ha, hb]
  · simp [List.filter_cons, ha]

/-- An attribute of another kind may stand anywhere. -/
theorem insert (name : String) (as bs : List Attribute) :
    ReadAlike (as ++ bs) (as ++ .other name :: bs) := by
  intro k hk
  have hother : ¬ (Attribute.other name).kind = k := fun h => hk h.symm
  rw [ofKind_append, ofKind_append]
  congr 1
  unfold ofKind
  rw [List.filter_cons_of_neg (by simpa using hother)]

variable (h : ReadAlike as bs) (p : Pool) (s : Settings)

include h

theorem signature? : ClassFile.signature? p as = ClassFile.signature? p bs := by
  rw [← signature?_ofKind, h .signature nofun, signature?_ofKind]

theorem constantOf? : ClassFile.constantOf? p as = ClassFile.constantOf? p bs := by
  rw [← constantOf?_ofKind, h .constantValue nofun, constantOf?_ofKind]

theorem exceptionsOf : ClassFile.exceptionsOf p as = ClassFile.exceptionsOf p bs := by
  rw [← exceptionsOf_ofKind, h .exceptions nofun, exceptionsOf_ofKind]

theorem annotationsOf : ClassFile.annotationsOf s as = ClassFile.annotationsOf s bs := by
  rw [← annotationsOf_ofKind, h .annotations nofun, annotationsOf_ofKind]

theorem parameterAnnotationsOf :
    ClassFile.parameterAnnotationsOf s as = ClassFile.parameterAnnotationsOf s bs := by
  rw [← parameterAnnotationsOf_ofKind, h .parameterAnnotations nofun,
    parameterAnnotationsOf_ofKind]

end ReadAlike

section

variable {σ : Type} {v : Visitor σ} {s : Settings} {p : Pool} {m m' : Member} {f f' : File}

theorem Member.ReadAlike.field (h : m.ReadAlike m') :
    Delivery.field v s p m = Delivery.field v s p m' := by
  have hdecl : fieldOf p m = fieldOf p m' := by
    rw [fieldOf, fieldOf, h.access, h.name, h.descriptor, h.attributes.signature? p,
      h.attributes.constantOf? p]
  rw [Delivery.field, Delivery.field, hdecl, h.attributes.annotationsOf s]

theorem Member.ReadAlike.method (h : m.ReadAlike m') :
    Delivery.method v s p m = Delivery.method v s p m' := by
  have hdecl : methodOf p m = methodOf p m' := by
    rw [methodOf, methodOf, h.access, h.name, h.descriptor, h.attributes.signature? p,
      h.attributes.exceptionsOf p]
  rw [Delivery.method, Delivery.method, hdecl, h.attributes.annotationsOf s,
    h.attributes.parameterAnnotationsOf s]

theorem Member.ReadAlike.wantsMember (h : m.ReadAlike m') : wantsMember s m = wantsMember s m' := by
  rw [ClassFile.wantsMember, ClassFile.wantsMember, h.access]

/-- Members that are read alike are wanted alike and delivered alike. -/
theorem forM_wanted_congr {ms ms' : List Member} {d : Member → Delivery σ Unit}
    (h : List.Forall₂ Member.ReadAlike ms ms')
    (hd : ∀ {m m' : Member}, m.ReadAlike m' → d m = d m') :
    (ms.filter (wantsMember s)).forM d = (ms'.filter (wantsMember s)).forM d := by
  induction h with
  | nil => rfl
  | cons hm _ ih =>
    rw [List.filter_cons, List.filter_cons, hm.wantsMember]
    split_ifs
    · exact congrArg₂ (fun (x y : Delivery σ Unit) => x >>= fun _ => y) (hd hm) ih
    · exact ih

/-- **Reordering.**  Files that are read alike are replayed alike. -/
theorem accept_congr (h : f.ReadAlike f') (v : Visitor σ) (s : Settings) (start : σ) :
    accept v s f start = accept v s f' start := by
  have hheader : headerOf f = headerOf f' := by
    rw [headerOf, headerOf, h.pool, h.superClass, h.interfaces, h.thisClass, h.access,
      h.attributes.signature?]
  have hfields : (f.fields.filter (wantsMember s)).forM (Delivery.field v s f'.pool) = _ :=
    forM_wanted_congr h.fields fun hm => hm.field
  have hmethods : (f.methods.filter (wantsMember s)).forM (Delivery.method v s f'.pool) = _ :=
    forM_wanted_congr h.methods fun hm => hm.method
  rw [accept, accept, Delivery.file, Delivery.file, hheader, h.attributes.annotationsOf s, h.pool,
    hfields, hmethods]

end

/-! ## Files without what is left out -/

/-- The attribute holds annotations that are invisible at run time. -/
def Attribute.isInvisible : Attribute → Bool
  | .annotations visible _ | .parameterAnnotations visible _ => !visible
  | _ => false

/-- The compiler made the member up. -/
def Member.isSynthetic (m : Member) : Bool := m.access.contains .syntheticFlag

/-- The attributes without invisible annotations, if the settings leave these out. -/
def strippedAttributes (s : Settings) (as : List Attribute) : List Attribute :=
  if s.includeInvisible then as else as.filter (!·.isInvisible)

/-- The member without its invisible annotations, if the settings leave these out. -/
def Member.stripped (s : Settings) (m : Member) : Member :=
  { m with attributes := strippedAttributes s m.attributes }

/-- The members without synthetic ones, if the settings leave these out, and each
    stripped. -/
def strippedMembers (s : Settings) (ms : List Member) : List Member :=
  (if s.includeSynthetic then ms else ms.filter (!·.isSynthetic)).map (·.stripped s)

/-- The file without all that the settings leave out. -/
def File.stripped (s : Settings) (f : File) : File :=
  { f with
    fields := strippedMembers s f.fields
    methods := strippedMembers s f.methods
    attributes := strippedAttributes s f.attributes }

section

variable {σ : Type} {s : Settings}

/-- Nothing but annotations is left out of attributes. -/
theorem ofKind_strippedAttributes {k : AttributeKind} (hk : k ≠ .annotations)
    (hk' : k ≠ .parameterAnnotations) (s : Settings) (as : List Attribute) :
    ofKind k (strippedAttributes s as) = ofKind k as := by
  unfold strippedAttributes
  split_ifs
  · rfl
  · rw [ofKind, ofKind, List.filter_filter]
    refine List.filter_congr fun a _ => ?_
    by_cases ha : a.kind = k
    · subst ha
      cases a with
      | annotations => exact absurd rfl hk
      | parameterAnnotations => exact absurd rfl hk'
      | _ => rfl
    · simp [ha]

theorem signature?_stripped (p : Pool) (as : List Attribute) :
    signature? p (strippedAttributes s as) = signature? p as := by
  rw [← signature?_ofKind, ofKind_strippedAttributes (by decide) (by decide), signature?_ofKind]

theorem constantOf?_stripped (p : Pool) (as : List Attribute) :
    constantOf? p (strippedAttributes s as) = constantOf? p as := by
  rw [← constantOf?_ofKind, ofKind_strippedAttributes (by decide) (by decide), constantOf?_ofKind]

theorem exceptionsOf_stripped (p : Pool) (as : List Attribute) :
    exceptionsOf p (strippedAttributes s as) = exceptionsOf p as := by
  rw [← exceptionsOf_ofKind, ofKind_strippedAttributes (by decide) (by decide), exceptionsOf_ofKind]

/-- What is gathered from attributes one by one is not missed where they are left
    out. -/
theorem flatMap_stripped {α : Type} {g g' : Attribute → List α} (as : List Attribute)
    (hin : s.includeInvisible = true → ∀ a, g' a = g a)
    (hout : s.includeInvisible = false → ∀ a, g a = if a.isInvisible then [] else g' a) :
    (strippedAttributes s as).flatMap g' = as.flatMap g := by
  unfold strippedAttributes
  cases hs : s.includeInvisible with
  | true =>
    rw [if_pos rfl]
    exact List.flatMap_congr fun a _ => hin hs a
  | false =>
    rw [if_neg Bool.false_ne_true]
    induction as with
    | nil => rfl
    | cons a as ih =>
      rw [List.flatMap_cons, hout hs, List.filter_cons]
      cases a.isInvisible with
      | true => exact ih
      | false => exact congrArg (g' a ++ ·) ih

theorem annotationsOf_stripped (as : List Attribute) :
    annotationsOf s.inclusive (strippedAttributes s as) = annotationsOf s as := by
  refine flatMap_stripped as (fun hs a => ?_) fun hs a => ?_ <;> cases a with
  | annotations visible items =>
    cases visible <;> simp [wantsVisibility, Settings.inclusive, hs, Attribute.isInvisible]
  | _ => simp [Attribute.isInvisible]

theorem parameterAnnotationsOf_stripped (as : List Attribute) :
    parameterAnnotationsOf s.inclusive (strippedAttributes s as) =
      parameterAnnotationsOf s as := by
  refine flatMap_stripped as (fun hs a => ?_) fun hs a => ?_ <;> cases a with
  | parameterAnnotations visible parameters =>
    cases visible <;> simp [wantsVisibility, Settings.inclusive, hs, Attribute.isInvisible]
  | _ => simp [Attribute.isInvisible]

theorem field_stripped (v : Visitor σ) (p : Pool) (m : Member) :
    Delivery.field v s.inclusive p (m.stripped s) = Delivery.field v s p m := by
  have hdecl : fieldOf p (m.stripped s) = fieldOf p m := by
    rw [fieldOf, fieldOf, Member.stripped, signature?_stripped, constantOf?_stripped]
  rw [Delivery.field, Delivery.field, hdecl, Member.stripped, annotationsOf_stripped]

theorem method_stripped (v : Visitor σ) (p : Pool) (m : Member) :
    Delivery.method v s.inclusive p (m.stripped s) = Delivery.method v s p m := by
  have hdecl : methodOf p (m.stripped s) = methodOf p m := by
    rw [methodOf, methodOf, Member.stripped, signature?_stripped, exceptionsOf_stripped]
  rw [Delivery.method, Delivery.method, hdecl, Member.stripped, annotationsOf_stripped,
    parameterAnnotationsOf_stripped]

/-- Of what is left all is wanted; it is what was wanted before. -/
theorem filter_strippedMembers (s : Settings) (ms : List Member) :
    (strippedMembers s ms).filter (wantsMember s.inclusive) =
      (ms.filter (wantsMember s)).map (·.stripped s) := by
  have hall : ∀ m ∈ strippedMembers s ms, wantsMember s.inclusive m = true := fun _ _ => rfl
  rw [List.filter_eq_self.2 hall, strippedMembers]
  congr 1
  split_ifs with hs
  · refine (List.filter_eq_self.2 fun m _ => ?_).symm
    rw [wantsMember, hs, Bool.true_or]
  · refine List.filter_congr fun m _ => ?_
    rw [wantsMember, Member.isSynthetic, Bool.eq_false_of_not_eq_true hs, Bool.false_or]

/-- **Omission.**  A file is replayed like what the settings leave of it. -/
theorem accept_stripped (v : Visitor σ) (s : Settings) (f : File) (start : σ) :
    accept v s.inclusive (f.stripped s) start = accept v s f start := by
  have hheader : headerOf (f.stripped s) = headerOf f := by
    rw [headerOf, headerOf, File.stripped, signature?_stripped]
  have hmembers (ms : List Member) {d d' : Member → Delivery σ Unit}
      (hd : ∀ m, d' (m.stripped s) = d m) :
      ((strippedMembers s ms).filter (wantsMember s.inclusive)).forM d' =
        (ms.filter (wantsMember s)).forM d := by
    rw [filter_strippedMembers]
    induction ms.filter (wantsMember s) with
    | nil => rfl
    | cons m ms ih => exact congrArg₂ (fun (x y : Delivery σ Unit) => x >>= fun _ => y) (hd m) ih
  have hfields := hmembers f.fields (field_stripped v f.pool)
  have hmethods := hmembers f.methods (method_stripped v f.pool)
  rw [accept, accept, Delivery.file, Delivery.file, hheader]
  rw [File.stripped]
  dsimp only
  rw [annotationsOf_stripped, hfields, hmethods]

end

/-! ## Both together -/

/-- **Omission and reordering.**  How a replay ends, the state in which it leaves the
    visitor and all that the visitor was given on the way are the same for the file
    without what the settings leave out, replayed with nothing left out; for any
    file that is read alike; and so for any file that differs only in what is left
    out or not read.  The reading of bytes is the reading of what is left of them. -/
theorem accept_omits {σ : Type} (v : Visitor σ) (s : Settings) (f : File) (start : σ) :
    let replayed (s : Settings) (f : File) :=
      (accept v s f start, (accept v.logged s f (start, [])).2.2)
    replayed s f = replayed s.inclusive (f.stripped s) ∧
    (∀ f', f.ReadAlike f' → replayed s f' = replayed s f) ∧
    (∀ f', (f.stripped s).ReadAlike (f'.stripped s) → replayed s f' = replayed s f) ∧
    ∀ n c bytes, decode bytes = .ok f → read s n c bytes =
      conclude n
        (Construction.visitor.feed (.start c s) (scriptOf s.inclusive (f.stripped s)))
        (endOf s.inclusive (f.stripped s)) := by
  intro replayed
  have hstripped (f : File) : replayed s.inclusive (f.stripped s) = replayed s f := by
    simp only [replayed, accept_stripped]
  have halike (s : Settings) {f f' : File} (h : f.ReadAlike f') : replayed s f' = replayed s f := by
    simp only [replayed, accept_congr h]
  refine ⟨(hstripped f).symm, fun f' h => halike s h, fun f' h => ?_, fun n c bytes hf => ?_⟩
  · calc replayed s f' = replayed s.inclusive (f'.stripped s) := (hstripped f').symm
      _ = replayed s.inclusive (f.stripped s) := halike _ h
      _ = replayed s f := hstripped f
  · rw [read_of_decode hf, scriptOf, endOf, scriptOf, endOf, accept_stripped]

/-- Leaves out what can be left out. -/
def sparse : Settings := { includeInvisible := false, includeSynthetic := false }

/-- A class with an annotation. -/
def tidyFile : File where
  pool := ⟨[some (.utf8 "a/B"), some (.classRef 1), some (.utf8 "La/C;")]⟩
  access := ⟨0x21⟩
  thisClass := 2
  superClass := 0
  interfaces := []
  fields := []
  methods := []
  attributes := [.signature 3, .annotations true [⟨3, []⟩]]

/-- The same class with a synthetic method and an invisible annotation that refer to
    nothing, and its attributes in another order. -/
def clutteredFile : File :=
  { tidyFile with
    methods := [⟨.syntheticFlag, 9, 9, []⟩]
    attributes := [.annotations false [⟨9, []⟩], .annotations true [⟨3, []⟩], .signature 3,
      .other "SourceFile"] }

/-- The bytes of a class `a/B` with a synthetic method whose name is nowhere. -/
def strayMethod : List UInt8 :=
  [0xCA, 0xFE, 0xBA, 0xBE, 0, 0, 0, 52, 0, 3, 1, 0, 3, 97, 47, 66, 7, 0, 1, 0, 33, 0, 2, 0, 0,
    0, 0, 0, 0, 0, 1, 16, 0, 0, 9, 0, 9, 0, 0, 0, 0]

set_option maxRecDepth 4000 in
/-- Without its method, the class is built from these bytes. -/
theorem strayMethod_stripped : ∃ f, decode strayMethod = .ok f ∧
    (conclude 0 (Construction.visitor.feed (.start .empty sparse)
      (scriptOf sparse.inclusive (f.stripped sparse)))
      (endOf sparse.inclusive (f.stripped sparse))).2.toOption.isSome = true :=
  ⟨_, rfl, rfl⟩

set_option maxRecDepth 4000 in
/-- What refers to nothing does no harm where it is left out. -/
theorem accept_omits_clutter :
    let marked : File :=
      { clutteredFile with attributes := .other "Deprecated" :: clutteredFile.attributes }
    accept Recorder.visitor sparse tidyFile {} = accept Recorder.visitor sparse clutteredFile {} ∧
      accept Recorder.visitor sparse marked {} = accept Recorder.visitor sparse clutteredFile {} ∧
      endOf sparse clutteredFile = .ok () ∧
      endOf {} clutteredFile = .error (.lookup (.noConstant 9)) ∧
      (read {} 0 .empty strayMethod).2.toOption.isSome = false ∧
      (read sparse 0 .empty strayMethod).2.toOption.isSome = true := by
  intro marked
  obtain ⟨-, halike, hstripped, -⟩ := accept_omits Recorder.visitor sparse clutteredFile {}
  obtain ⟨f, hf, hread⟩ := strayMethod_stripped
  obtain ⟨-, -, -, hbytes⟩ := accept_omits Recorder.visitor sparse f {}
  refine ⟨?_, ?_, rfl, rfl, rfl, ?_⟩
  · refine congrArg Prod.fst (hstripped tidyFile ?_)
    refine ⟨rfl, rfl, rfl, rfl, rfl, .nil, .nil, ?_⟩
    exact (ReadAlike.insert "SourceFile" [_, _] []).symm.trans (.swap (by decide) [] [])
  · refine congrArg Prod.fst (halike _ ?_)
    refine ⟨rfl, rfl, rfl, rfl, rfl, .nil, .cons ⟨rfl, rfl, rfl, .refl _⟩ .nil, ?_⟩
    exact ReadAlike.insert "Deprecated" [] clutteredFile.attributes
  · rw [hbytes 0 .empty strayMethod hf]
    exact hread

end ClassFile

end ClassCatalog
