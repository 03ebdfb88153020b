/-
  What is written into a pool can be looked up again.

  A pool only grows while a description is encoded, so an index that was handed out
  keeps its constant (`Pool.Extends.get?_eq_some`).

  * `Writes m P`: what `m` gives has the property `P` in the pool that `m` leaves and
    in every pool that extends it;
  * `writes_element`, `writes_annotationItem`: elements and annotations of a description,
    nested as they may be, are looked up with the values that they were written with;
  * `writes_signature` and its likes: attributes of one kind each, and what is read
    from them.
-/
import ClassCatalog.ClassFile.Encode
import ClassCatalog.Proofs.Attributes
import ClassCatalog.Proofs.FileOrder
import Mathlib.Data.List.Forall2

namespace ClassCatalog

/-! ## Results one after the other -/

theorem bind_eq_ok_iff {ε α β : Type} {x : Except ε α} {k : α → Except ε β} {b : β} :
    x >>= k = .ok b ↔ ∃ a, x = .ok a ∧ k a = .ok b := by
  constructor
  · intro h
    cases x with
    | error error => cases h
    | ok a => exact ⟨a, rfl, h⟩
  · rintro ⟨a, rfl, h⟩
    exact h

/-- A list is read iff all of its items are. -/
theorem mapM_eq_ok_iff {ε α β : Type} {f : α → Except ε β} {as : List α} {bs : List β} :
    as.mapM f = .ok bs ↔ List.Forall₂ (fun a b => f a = .ok b) as bs := by
  induction as generalizing bs with
  | nil =>
    rw [List.mapM_nil, List.forall₂_nil_left_iff]
    exact ⟨fun h => (Except.ok.inj h).symm, fun h => congrArg Except.ok h.symm⟩
  | cons a as ih =>
    rw [List.mapM_cons, bind_eq_ok_iff, List.forall₂_cons_left_iff]
    constructor
    · rintro ⟨b, hb, h⟩
      obtain ⟨bs, hbs, h⟩ := bind_eq_ok_iff.1 h
      cases h
      exact ⟨b, bs, hb, ih.1 hbs, rfl⟩
    · rintro ⟨b, bs, hb, hbs, rfl⟩
      exact ⟨b, hb, bind_eq_ok_iff.2 ⟨bs, ih.2 hbs, rfl⟩⟩

/-- A list is not read because of its first item that is not. -/
theorem mapM_eq_error_iff {ε α β : Type} {f : α → Except ε β} {as : List α} {error : ε} :
    as.mapM f = .error error ↔ ∃ before a after, as = before ++ a :: after ∧
      (∀ x ∈ before, ∃ b, f x = .ok b) ∧ f a = .error error := by
  constructor
  · intro h
    induction as with
    | nil => cases h
    | cons a as ih =>
      rw [List.mapM_cons] at h
      cases ha : f a with
      | error error' =>
        rw [ha] at h
        cases h
        exact ⟨[], a, as, rfl, nofun, ha⟩
      | ok b =>
        cases has : as.mapM f with
        | error error' =>
          rw [ha, has] at h
          cases h
          obtain ⟨before, a', after, rfl, hbefore, ha'⟩ := ih has
          exact ⟨a :: before, a', after, rfl, List.forall_mem_cons.2 ⟨⟨b, ha⟩, hbefore⟩, ha'⟩
        | ok bs =>
          rw [ha, has] at h
          cases h
  · rintro ⟨before, a, after, rfl, hbefore, ha⟩
    induction before with
    | nil =>
      rw [List.nil_append, List.mapM_cons, ha]
      rfl
    | cons x before ih =>
      obtain ⟨⟨b, hb⟩, hbefore⟩ := List.forall_mem_cons.1 hbefore
      rw [List.cons_append, List.mapM_cons, hb, ih hbefore]
      rfl

end ClassCatalog

namespace ClassCatalog.ClassFile

/-! ## Growing pools -/

namespace Pool

/-- The pool holds the constants of another at the same indices. -/
def Extends (q p : Pool) : Prop := p.places <+: q.places

theorem Extends.refl (p : Pool) : p.Extends p := List.prefix_refl p.places

theorem Extends.trans {p q r : Pool} (hr : r.Extends q) (hq : q.Extends p) : r.Extends p :=
  List.IsPrefix.trans hq hr

variable {p q : Pool} {i : Nat}

theorem Extends.get?_eq_some (h : q.Extends p) {c : PoolConstant} (hc : p.get? i = some c) :
    q.get? i = some c := by
  cases i with
  | zero => cases hc
  | succ i =>
    obtain ⟨rest, hrest⟩ := h
    have hp : p.places[i]? = some (some c) := Option.join_eq_some_iff.1 hc
    have hi : i < p.places.length := (List.getElem?_eq_some_iff.1 hp).1
    rw [get?, ← hrest, List.getElem?_append_left hi, hp]
    rfl

theorem ne_zero_of_get? {c : PoolConstant} (hc : p.get? i = some c) : i ≠ 0 := by
  rintro rfl
  cases hc

/-! ### Looking up a constant that is there -/

theorem lookup_of_get? {α : Type} {read : PoolConstant → Option α} {c : PoolConstant} {a : α}
    (hc : p.get? i = some c) (ha : read c = some a) : p.lookup read i = .ok a := by
  rw [lookup, hc]
  dsimp only
  rw [ha]

theorem text_of_get? {s : String} (h : p.get? i = some (.utf8 s)) : p.text i = .ok s := by
  have hu : p.utf8 i = .ok s := lookup_of_get? h rfl
  rw [text, hu]
  rfl

theorem classText_of_get? {n : Nat} {name : String} (hi : p.get? i = some (.classRef n))
    (hn : p.get? n = some (.utf8 name)) : p.classText i = .ok name := by
  have hc : p.className i = p.utf8 n := by
    rw [className, lookup_of_get? hi]
    · rfl
    · rfl
  rw [classText, hc]
  exact text_of_get? hn

theorem typeName_of_text {d : String} (h : p.text i = .ok d) (hd : Description.NamesType d) :
    p.typeName i = .ok (Description.typeName d) := by
  rw [typeName, h]
  by_cases hv : d = "V"
  · rw [Description.typeName, if_pos hv]
    exact if_pos hv
  · obtain ⟨t, ht⟩ := hd.resolve_left hv
    rw [Description.typeName, if_neg hv, ht]
    refine (if_neg hv).trans ?_
    rw [ht]
    rfl

end Pool

/-! ## Writing -/

section

variable {α β : Type} {P Q : Pool → α → Prop} {R : Pool → β → Prop}

/-- Nothing that is there before is lost, and what is given has the property as long
    as what is there afterwards is not lost. -/
def Writes (m : Writer α) (P : Pool → α → Prop) : Prop :=
  ∀ p, (m.run p).2.Extends p ∧ ∀ q : Pool, q.Extends (m.run p).2 → P q (m.run p).1

theorem Writes.pure {a : α} (h : ∀ q, P q a) : Writes (Pure.pure a) P :=
  fun p => ⟨.refl p, fun q _ => h q⟩

/-- What was written first still has its property at the end. -/
theorem Writes.bind {m : Writer α} {k : α → Writer β} (hm : Writes m P)
    (hk : ∀ a, Writes (k a) fun q b => P q a → R q b) : Writes (m >>= k) R := by
  intro p
  obtain ⟨hp, hP⟩ := hm p
  obtain ⟨hp', hR⟩ := hk (m.run p).1 (m.run p).2
  exact ⟨hp'.trans hp, fun q hq => hR q hq (hP q (hq.trans hp'))⟩

theorem Writes.imp {m : Writer α} (hm : Writes m P) (h : ∀ q a, P q a → Q q a) : Writes m Q :=
  fun p => ⟨(hm p).1, fun q hq => h q _ ((hm p).2 q hq)⟩

theorem Writes.mapM {ι : Type} {f : ι → Writer α} {P : Pool → α → ι → Prop} {xs : List ι}
    (h : ∀ x ∈ xs, Writes (f x) fun q a => P q a x) :
    Writes (xs.mapM f) fun q as => List.Forall₂ (P q) as xs := by
  induction xs with
  | nil => exact .pure fun _ => .nil
  | cons x xs ih =>
    rw [List.mapM_cons]
    have hx := h x List.mem_cons_self
    have hxs := ih fun y hy => h y (List.mem_cons_of_mem x hy)
    exact hx.bind fun a => hxs.bind fun as => .pure fun q has ha => .cons ha has

end

namespace Writer

/-! ## Constants -/

theorem writes_constant (c : PoolConstant) : Writes (constant c) fun q i => q.get? i = some c := by
  intro p
  refine ⟨List.prefix_append _ _, fun q hq => hq.get?_eq_some ?_⟩
  have hp : (p.places ++ if c.isWide then [some c, none] else [some c])[p.places.length]? =
      some (some c) := by
    rw [List.getElem?_append_right (Nat.le_refl _), Nat.sub_self]
    split <;> rfl
  exact congrArg Option.join hp

theorem writes_utf8 (s : String) : Writes (utf8 s) fun q i => q.text i = .ok s :=
  (writes_constant (.utf8 s)).imp fun _ _ h => Pool.text_of_get? h

theorem writes_classRef (name : String) :
    Writes (classRef name) fun q i => i ≠ 0 ∧ q.classText i = .ok name :=
  (writes_constant (.utf8 name)).bind fun n => (writes_constant (.classRef n)).imp
    fun _ _ hi hn => ⟨Pool.ne_zero_of_get? hi, Pool.classText_of_get? hi hn⟩

theorem writes_fieldConstant (c : FieldConstant) :
    Writes (fieldConstant c) fun q i => constant? q i = .ok (some c) := by
  cases c with
  | int v => exact (writes_constant (.integer v)).imp fun q i h => by rw [constant?, h]; rfl
  | long v => exact (writes_constant (.long v)).imp fun q i h => by rw [constant?, h]; rfl
  | float v => exact (writes_constant (.float v)).imp fun q i h => by rw [constant?, h]; rfl
  | double v => exact (writes_constant (.double v)).imp fun q i h => by rw [constant?, h]; rfl
  | string text =>
    refine (writes_utf8 text).bind fun n => (writes_constant (.string n)).imp fun q i h hn => ?_
    rw [constant?, h]
    dsimp only
    rw [hn]
    rfl

/-! ## Elements -/

/-- The code of a character is that of the character. -/
theorem charOfCode_ofInt (c : Char) : charOfCode (.ofInt c.toNat) = c := by
  have hlt : c.toNat < 2 ^ 32 := c.val.toNat_lt
  have hn : (Int32.ofInt c.toNat).toUInt32.toNat = c.toNat := by
    rw [Int32.ofInt_eq_ofNat]
    exact Nat.mod_eq_of_lt hlt
  rw [charOfCode, hn]
  exact (if_pos c.valid).trans (Char.ofNat_toNat c)

/-- A scalar of a kind that reads one constant and makes `f` of it. -/
theorem writes_scalar {α : Type} {kind : ScalarKind} {c : PoolConstant} {a : α} {v : ElementValue}
    (read : Pool → Nat → Except LookupError α) (f : α → ElementValue)
    (hkind : ∀ q i, scalarValue q i kind = ((read q i).mapError .lookup).map f)
    (hread : ∀ (q : Pool) i, q.get? i = some c → read q i = .ok a) (hv : f a = v) :
    Writes (scalar kind c) fun q x => value q x = .ok v :=
  (writes_constant c).bind fun i => .pure fun q hi => by
    rw [value, hkind, hread q i hi]
    exact congrArg Except.ok hv

/-- The elements have the names and values. -/
def Reads (q : Pool) : List (Nat × Element) → List (String × ElementValue) → Prop :=
  List.Forall₂ fun x y => q.text x.1 = .ok y.1 ∧ value q x.2 = .ok y.2

theorem Reads.attributes {q : Pool} {xs : List (Nat × Element)} {ys : List (String × ElementValue)}
    (h : Reads q xs ys) (read : List (String × ElementValue)) :
    attributes q read xs = .ok (ys.foldl (fun t e => Table.put t e.1 e.2) read) := by
  induction h generalizing read with
  | nil => rfl
  | @cons x y xs ys hxy _ ih =>
    rw [ClassFile.attributes, hxy.1, hxy.2]
    exact ih _

mutual

-- By induction on the element.  The constants of its parts were written before all of
-- it was, so each part still reads well in the pool that the whole one leaves.
theorem writes_element : (e : Description.Element) → e.Typed →
    Writes (element e) fun q x => value q x = .ok e.value
  | .bool v, _ => writes_scalar Pool.integer (fun n => .bool (n != 0)) (fun _ _ => rfl)
    (fun _ _ hi => Pool.lookup_of_get? hi rfl) (by cases v <;> rfl)
  | .byte v, _ => writes_scalar Pool.integer (fun n => .byte n.toInt8) (fun _ _ => rfl)
    (fun _ _ hi => Pool.lookup_of_get? hi rfl) (congrArg _ v.toInt8_toInt32)
  | .char v, _ => writes_scalar Pool.integer (fun n => .char (charOfCode n)) (fun _ _ => rfl)
    (fun _ _ hi => Pool.lookup_of_get? hi rfl) (congrArg _ (charOfCode_ofInt v))
  | .short v, _ => writes_scalar Pool.integer (fun n => .short n.toInt16) (fun _ _ => rfl)
    (fun _ _ hi => Pool.lookup_of_get? hi rfl) (congrArg _ v.toInt16_toInt32)
  | .int v, _ => writes_scalar Pool.integer .int (fun _ _ => rfl)
    (fun _ _ hi => Pool.lookup_of_get? hi rfl) rfl
  | .long v, _ => writes_scalar Pool.long .long (fun _ _ => rfl)
    (fun _ _ hi => Pool.lookup_of_get? hi rfl) rfl
  | .float v, _ => writes_scalar Pool.float .float (fun _ _ => rfl)
    (fun _ _ hi => Pool.lookup_of_get? hi rfl) rfl
  | .double v, _ => writes_scalar Pool.double .double (fun _ _ => rfl)
    (fun _ _ hi => Pool.lookup_of_get? hi rfl) rfl
  | .string v, _ => writes_scalar Pool.utf8 .string (fun _ _ => rfl)
    (fun _ _ hi => Pool.lookup_of_get? hi rfl) rfl
  | .classLiteral d, hd => (writes_utf8 d).bind fun i => .pure fun q hi => by
    rw [value, scalarValue, Pool.typeName_of_text hi hd]
    rfl
  | .enumConstant d c, hd => (writes_utf8 d).bind fun type => (writes_utf8 c).bind fun constant =>
    .pure fun q hc ht => by
      rw [value, Pool.typeName_of_text ht hd, hc]
      rfl
  | .nested d ps, h => (writes_utf8 d).bind fun type => (writes_pairs ps h.2).bind fun pairs =>
    .pure fun q hps ht => by
      rw [value, hps.attributes, Pool.typeName_of_text ht h.1]
      rfl
  | .array is, h => (writes_items is h).bind fun items => .pure fun q his => by
    rw [value, his]
    rfl

theorem writes_pairs : (ps : List (String × Description.Element)) → Description.PairsTyped ps →
    Writes (pairs ps) fun q xs => Reads q xs (Description.pairValues ps)
  | [], _ => .pure fun _ => .nil
  | (n, e) :: ps, h => (writes_utf8 n).bind fun _ => (writes_element e h.1).bind fun _ =>
    (writes_pairs ps h.2).bind fun _ => .pure fun _ hps he hn => .cons ⟨hn, he⟩ hps

theorem writes_items : (is : List Description.Element) → Description.ItemsTyped is →
    Writes (items is) fun q xs => values q xs = .ok (Description.itemValues is)
  | [], _ => .pure fun _ => rfl
  | e :: is, h => (writes_element e h.1).bind fun element => (writes_items is h.2).bind fun items =>
    .pure fun q his he => by
      rw [values, he, his]
      rfl

end

/-! ## Annotations -/

/-- The annotation has the type, visibility and elements. -/
structure Renders (q : Pool) (x : AnnotationItem × Bool) (a : Description.Annotation) : Prop where
  type : q.text x.1.type = .ok a.descriptor
  visible : x.2 = a.visible
  pairs : Reads q x.1.pairs (Description.pairValues a.pairs)

theorem writes_annotationItem {a : Description.Annotation} (ha : a.Typed) :
    Writes (annotationItem a) fun q x => Renders q (x, a.visible) a :=
  (writes_utf8 a.descriptor).bind fun _ => (writes_pairs a.pairs ha).bind fun _ =>
    .pure fun _ hps ht => ⟨ht, rfl, hps⟩

theorem writes_parameterItem {x : Nat × Description.Annotation} (hx : x.2.Typed) :
    Writes (parameterItem x) fun q y => y.1 = x.1 ∧ Renders q (y.2, x.2.visible) x.2 :=
  (writes_annotationItem hx).bind fun _ => .pure fun _ hr => ⟨rfl, hr⟩

/-! ## Attributes -/

theorem writes_named (name : String) (a : Attribute) :
    Writes (named name a) fun _ as => as = [a] :=
  (writes_utf8 name).bind fun _ => .pure fun _ _ => rfl

theorem writes_constantValue (c? : Option FieldConstant) :
    Writes (constantValue c?) fun q as =>
      AllKind .constantValue as ∧ constantOf? q as = .ok c? := by
  cases c? with
  | none => exact .pure fun _ => ⟨.nil _, rfl⟩
  | some c =>
    exact (writes_utf8 _).bind fun _ => (writes_fieldConstant c).bind fun i =>
      .pure fun q hi _ => ⟨.single (.constantValue i), hi⟩

theorem writes_signature (text? : Option String) :
    Writes (signature text?) fun q as => AllKind .signature as ∧ signature? q as = .ok text? := by
  cases text? with
  | none => exact .pure fun _ => ⟨.nil _, rfl⟩
  | some text =>
    refine (writes_utf8 _).bind fun _ => (writes_utf8 text).bind fun i => .pure fun q hi _ => ?_
    refine ⟨.single (.signature i), ?_⟩
    rw [signature?, hi]
    rfl

theorem writes_classes (names : List String) :
    Writes (names.mapM classRef) fun q is => is.mapM q.classText = .ok names :=
  (Writes.mapM fun name _ => writes_classRef name).imp fun _ _ h =>
    mapM_eq_ok_iff.2 (h.imp fun _ _ hi => hi.2)

theorem writes_exceptions (names : List String) :
    Writes (exceptions names) fun q as =>
      AllKind .exceptions as ∧ exceptionsOf q as = .ok names := by
  cases names with
  | nil => exact .pure fun _ => ⟨.nil _, rfl⟩
  | cons name names =>
    exact (writes_utf8 _).bind fun _ => (writes_classes (name :: names)).bind fun is =>
      .pure fun q his _ => ⟨.single (.exceptions is), his⟩

/-- By default annotations of both visibilities are delivered. -/
theorem wantsVisibility_default (visible : Bool) : wantsVisibility {} visible :=
  Bool.or_true visible

theorem writes_annotationsOf {as : List Description.Annotation} (h : ∀ a ∈ as, a.Typed)
    (visible : Bool) :
    Writes (annotationsOf as visible) fun q bs => AllKind .annotations bs ∧
      List.Forall₂ (Renders q) (ClassFile.annotationsOf {} bs) (as.filter (·.visible == visible)) := by
  have hitem (a) (ha : a ∈ as.filter (·.visible == visible)) :
      Writes (annotationItem a) fun q x => Renders q (x, visible) a := by
    obtain ⟨ha, hv⟩ := List.mem_filter.1 ha
    rw [← eq_of_beq hv]
    exact writes_annotationItem (h a ha)
  refine (Writes.mapM hitem).bind fun items => ?_
  cases items with
  | nil =>
    refine .pure fun q hr => ⟨.nil _, ?_⟩
    rw [List.forall₂_nil_left_iff.1 hr]
    exact .nil
  | cons x items =>
    refine (writes_named _ (.annotations visible (x :: items))).imp ?_
    rintro q _ rfl hr
    refine ⟨.single (.annotations visible (x :: items)), ?_⟩
    rw [annotationsOf_single (wantsVisibility_default visible), List.forall₂_map_left_iff]
    exact hr

theorem writes_annotations {as : List Description.Annotation} (h : ∀ a ∈ as, a.Typed) :
    Writes (annotations as) fun q bs => AllKind .annotations bs ∧
      List.Forall₂ (Renders q) (ClassFile.annotationsOf {} bs) (Description.group as) := by
  refine (writes_annotationsOf h true).bind fun visible => (writes_annotationsOf h false).bind
    fun invisible => .pure fun q hi hv => ⟨hv.1.append hi.1, ?_⟩
  rw [annotationsOf_append, Description.group]
  refine List.rel_append ?_ ?_
  · simpa using hv.2
  · simpa using hi.2

/-! ### Parameters -/

/-- The annotation is on the parameter. -/
def RendersAt (q : Pool) (x : Nat × AnnotationItem × Bool) (y : Nat × Description.Annotation) :
    Prop :=
  x.1 = y.1 ∧ Renders q x.2 y.2

/-- The annotations of one parameter are picked alike before and after they are
    written. -/
theorem rendersAt_pick {q : Pool} {visible : Bool} {xs : List (Nat × AnnotationItem)}
    {ys : List (Nat × Description.Annotation)}
    (h : List.Forall₂ (fun x y => RendersAt q (x.1, x.2, visible) y) xs ys) (i : Nat) :
    List.Forall₂ (RendersAt q) (((xs.filter (·.1 == i)).map (·.2)).map fun a => (i, a, visible))
      (ys.filter (·.1 == i)) := by
  induction h with
  | nil => exact .nil
  | @cons x y xs ys hxy _ ih =>
    have hy : (y.1 == i) = (x.1 == i) := by rw [hxy.1]
    rw [List.filter_cons, List.filter_cons, hy]
    split_ifs with hx
    · obtain rfl : x.1 = i := eq_of_beq hx
      exact .cons hxy ih
    · exact ih

theorem writes_parameterAnnotationsOf {as : List (Nat × Description.Annotation)}
    (h : ∀ x ∈ as, x.2.Typed) (count : Nat) (visible : Bool) :
    Writes (parameterAnnotationsOf count as visible) fun q bs => AllKind .parameterAnnotations bs ∧
      List.Forall₂ (RendersAt q) (ClassFile.parameterAnnotationsOf {} bs)
        ((List.range count).flatMap fun i =>
          as.filter fun (j, a) => a.visible == visible && j == i) := by
  have hitem (x) (hx : x ∈ as.filter (·.2.visible == visible)) :
      Writes (parameterItem x) fun q y => RendersAt q (y.1, y.2, visible) x := by
    obtain ⟨hx, hv⟩ := List.mem_filter.1 hx
    rw [← eq_of_beq hv]
    exact writes_parameterItem (h x hx)
  simp only [Description.filter_visible_and]
  refine (Writes.mapM hitem).bind fun items => ?_
  cases items with
  | nil =>
    refine .pure fun q hr => ⟨.nil _, ?_⟩
    rw [List.forall₂_nil_left_iff.1 hr]
    simp [ClassFile.parameterAnnotationsOf]
  | cons x items =>
    refine (writes_named _ (.parameterAnnotations visible _)).imp ?_
    rintro q _ rfl hr
    refine ⟨.single (.parameterAnnotations visible _), ?_⟩
    rw [parameterAnnotationsOf_single (wantsVisibility_default visible)]
    refine List.rel_flatMap (R := Eq) (List.forall₂_refl _) ?_
    rintro i _ rfl
    exact rendersAt_pick hr i

theorem writes_parameterAnnotations {as : List (Nat × Description.Annotation)}
    (h : ∀ x ∈ as, x.2.Typed) (count : Nat) :
    Writes (parameterAnnotations count as) fun q bs => AllKind .parameterAnnotations bs ∧
      List.Forall₂ (RendersAt q) (ClassFile.parameterAnnotationsOf {} bs)
        (Description.groupParameters count as) := by
  refine (writes_parameterAnnotationsOf h count true).bind fun visible =>
    (writes_parameterAnnotationsOf h count false).bind fun invisible =>
    .pure fun q hi hv => ⟨hv.1.append hi.1, ?_⟩
  rw [parameterAnnotationsOf_append, Description.groupParameters, List.flatMap_cons,
    List.flatMap_cons, List.flatMap_nil, List.append_nil]
  exact List.rel_append hv.2 hi.2

/-! ## Members -/

/-- The member has the declaration and, in order, the annotations of the field. -/
structure RendersField (q : Pool) (m : Member) (f : Description.Field) : Prop where
  decl : fieldOf q m = .ok f.decl
  annotations : List.Forall₂ (Renders q) (ClassFile.annotationsOf {} m.attributes)
    (Description.group f.annotations)

theorem writes_field {f : Description.Field}
    (haccess : f.decl.access.mask Reader.fieldMask = f.decl.access)
    (htyped : ∀ a ∈ f.annotations, a.Typed) : Writes (field f) fun q m => RendersField q m f := by
  refine (writes_constantValue f.decl.constant?).bind fun cs =>
    (writes_signature f.decl.signature?).bind fun ss => (writes_annotations htyped).bind fun as =>
    (writes_utf8 f.decl.name).bind fun name => (writes_utf8 f.decl.descriptor).bind fun descriptor =>
    .pure fun q hdescriptor hname ha hs hc => ?_
  have hkinds (k : AttributeKind) : ofKind k (cs ++ (ss ++ as)) =
      (if .constantValue = k then cs else []) ++ ((if .signature = k then ss else []) ++
        if .annotations = k then as else []) := by
    rw [ofKind_append, ofKind_append, hc.1.ofKind_eq, hs.1.ofKind_eq, ha.1.ofKind_eq]
  have hconstant : constantOf? q (cs ++ (ss ++ as)) = .ok f.decl.constant? := by
    rw [← constantOf?_ofKind, hkinds]
    simpa using hc.2
  have hsignature : signature? q (cs ++ (ss ++ as)) = .ok f.decl.signature? := by
    rw [← signature?_ofKind, hkinds]
    simpa using hs.2
  refine ⟨?_, ?_⟩
  · rw [fieldOf, hname, hdescriptor, hsignature, hconstant]
    exact congrArg (fun access => Except.ok { f.decl with access }) haccess
  · rw [← annotationsOf_ofKind, hkinds]
    simpa using ha.2

/-- The member has the declaration and, in order, the annotations of the method. -/
structure RendersMethod (q : Pool) (m : Member) (d : Description.Method) : Prop where
  decl : methodOf q m = .ok d.decl
  annotations : List.Forall₂ (Renders q) (ClassFile.annotationsOf {} m.attributes)
    (Description.group d.annotations)
  parameterAnnotations : List.Forall₂ (RendersAt q) (ClassFile.parameterAnnotationsOf {} m.attributes)
    (Description.groupParameters d.parameterCount d.parameterAnnotations)

theorem writes_method {m : Description.Method}
    (haccess : m.decl.access.mask Reader.methodMask = m.decl.access)
    (htyped : ∀ a ∈ m.annotations, a.Typed) (htyped' : ∀ x ∈ m.parameterAnnotations, x.2.Typed) :
    Writes (method m) fun q x => RendersMethod q x m := by
  refine (writes_named "Code" (.other "Code")).bind fun cs =>
    (writes_exceptions m.decl.exceptions).bind fun es =>
    (writes_signature m.decl.signature?).bind fun ss => (writes_annotations htyped).bind fun as =>
    (writes_parameterAnnotations htyped' m.parameterCount).bind fun ps =>
    (writes_utf8 m.decl.name).bind fun name => (writes_utf8 m.decl.descriptor).bind fun descriptor =>
    .pure fun q hdescriptor hname hp ha hs he hc => ?_
  subst hc
  have hkinds (k : AttributeKind) : ofKind k ([.other "Code"] ++ (es ++ (ss ++ (as ++ ps)))) =
      (if .other = k then [.other "Code"] else []) ++ ((if .exceptions = k then es else []) ++
        ((if .signature = k then ss else []) ++ ((if .annotations = k then as else []) ++
          if .parameterAnnotations = k then ps else []))) := by
    rw [ofKind_append, ofKind_append, ofKind_append, ofKind_append, he.1.ofKind_eq, hs.1.ofKind_eq,
      ha.1.ofKind_eq, hp.1.ofKind_eq, (AllKind.single (.other "Code")).ofKind_eq]
    rfl
  have hexceptions : exceptionsOf q ([.other "Code"] ++ (es ++ (ss ++ (as ++ ps)))) =
      .ok m.decl.exceptions := by
    rw [← exceptionsOf_ofKind, hkinds]
    simpa using he.2
  have hsignature : signature? q ([.other "Code"] ++ (es ++ (ss ++ (as ++ ps)))) =
      .ok m.decl.signature? := by
    rw [← signature?_ofKind, hkinds]
    simpa using hs.2
  refine ⟨?_, ?_, ?_⟩
  · rw [methodOf, hname, hdescriptor, hsignature, hexceptions]
    exact congrArg (fun access => Except.ok { m.decl with access }) haccess
  · rw [← annotationsOf_ofKind, hkinds]
    simpa using ha.2
  · rw [← parameterAnnotationsOf_ofKind, hkinds]
    simpa using hp.2

end Writer

end ClassCatalog.ClassFile
