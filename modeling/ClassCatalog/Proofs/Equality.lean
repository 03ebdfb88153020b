/-
  Equality of element values is a partial equivalence.

  It is symmetric and transitive, and a value equals itself iff there is no NaN anywhere
  in it.  Attributes are compared by name: as many attributes on both sides, each with an
  equal one of its name on the other.  Names that differ make this symmetric, for then no
  name of the other side is left over.

  * `equal_nested_iff`, `equal_array_iff`, `equal_float_iff`, `equal_double_iff`,
    `equal_plain_iff`: what equals a value of each kind;
  * `ElementValue.inductOn`: induction over a value and all values in it;
  * `equal_symm`, `equal_trans`, `equal_self_iff`: the laws;
  * `Rearranges`: the attributes of one annotation, wherever it stands, are put in another
    order.  It makes no difference to equality (`Rearranged.equal_iff`);
  * `equal_partial_equivalence`: all of it.
-/
import ClassCatalog.Element.Equality
import ClassCatalog.Proofs.JsonValue
import ClassCatalog.Proofs.Table
import Mathlib.Data.List.Perm.Subperm
import Mathlib.Logic.Relation

namespace ClassCatalog

/-! ## Numbers -/

/-- Equality of numbers of a format: no NaN equals anything, and zeros are equal. -/
def EqualNumbers {α : Type} (isNaN isZero : α → Bool) (x y : α) : Prop :=
  isNaN x = false ∧ isNaN y = false ∧ (x = y ∨ isZero x = true ∧ isZero y = true)

section Numbers

variable {α : Type} {isNaN isZero : α → Bool} {x y z : α}

theorem EqualNumbers.symm (h : EqualNumbers isNaN isZero x y) : EqualNumbers isNaN isZero y x := by
  obtain ⟨hx, hy, h⟩ := h
  exact ⟨hy, hx, h.imp Eq.symm And.symm⟩

theorem EqualNumbers.trans (hxy : EqualNumbers isNaN isZero x y)
    (hyz : EqualNumbers isNaN isZero y z) : EqualNumbers isNaN isZero x z := by
  obtain ⟨hx, -, rfl | ⟨hxzero, hyzero⟩⟩ := hxy
  · exact hyz
  · obtain ⟨-, hz, rfl | ⟨-, hzzero⟩⟩ := hyz
    · exact ⟨hx, hz, .inr ⟨hxzero, hyzero⟩⟩
    · exact ⟨hx, hz, .inr ⟨hxzero, hzzero⟩⟩

theorem equalNumbers_self_iff : EqualNumbers isNaN isZero x x ↔ isNaN x = false :=
  ⟨And.left, fun h => ⟨h, h, .inl rfl⟩⟩

/-- Zeros that are no NaNs are equal. -/
theorem EqualNumbers.of_isZero (h : ∀ {x}, isZero x = true → isNaN x = false)
    (hx : isZero x = true) (hy : isZero y = true) : EqualNumbers isNaN isZero x y :=
  ⟨h hx, h hy, .inr ⟨hx, hy⟩⟩

variable {ω : Type} [BEq ω] [LawfulBEq ω]

/-- Numbers that are told apart by their words compare as their words, or as zeros. -/
theorem equalNumbers_iff {word : α → ω} (hw : word.Injective) :
    (!isNaN x && !isNaN y && (word x == word y || (isZero x && isZero y))) = true ↔
      EqualNumbers isNaN isZero x y := by
  simp [EqualNumbers, hw.eq_iff, and_assoc]

/-- A magnitude that is zero is not beyond a bound that zero is not beyond. -/
theorem decide_lt_of_beq_zero [LT ω] [DecidableLT ω] {zero magnitude bound : ω}
    (hb : ¬ bound < zero) (h : (magnitude == zero) = true) :
    decide (bound < magnitude) = false := by
  rw [eq_of_beq h]
  exact decide_eq_false hb

end Numbers

theorem Single.equal_iff {x y : Single} :
    x.equal y = true ↔ EqualNumbers Single.isNaN Single.isZero x y :=
  equalNumbers_iff fun ⟨_⟩ ⟨_⟩ => congrArg Single.mk

theorem Double.equal_iff {x y : Double} :
    x.equal y = true ↔ EqualNumbers Double.isNaN Double.isZero x y :=
  equalNumbers_iff fun ⟨_⟩ ⟨_⟩ => congrArg Double.mk

theorem Single.not_isNaN_of_isZero {x : Single} : x.isZero = true → x.isNaN = false :=
  decide_lt_of_beq_zero (by decide)

theorem Double.not_isNaN_of_isZero {x : Double} : x.isZero = true → x.isNaN = false :=
  decide_lt_of_beq_zero (by decide)

namespace ElementValue

/-! ## Values -/

/-- Values without numbers of a floating-point format and without other values in them. -/
def IsPlain : ElementValue → Prop
  | float _ | double _ | nested _ _ | array _ => False
  | _ => True

theorem equal_plain_iff {v b : ElementValue} (h : v.IsPlain) : equal v b = true ↔ v = b := by
  cases v with
  | float _ | double _ | nested _ _ | array _ => exact h.elim
  | _ => cases b <;> simp [equal]

theorem equal_float_iff {x : Single} {b : ElementValue} : equal (float x) b = true ↔
    ∃ y, b = float y ∧ EqualNumbers Single.isNaN Single.isZero x y := by
  cases b <;> simp [equal, Single.equal_iff]

theorem equal_double_iff {x : Double} {b : ElementValue} : equal (double x) b = true ↔
    ∃ y, b = double y ∧ EqualNumbers Double.isNaN Double.isZero x y := by
  cases b <;> simp [equal, Double.equal_iff]

theorem equalAttributes_iff {as bs : Attributes} : equalAttributes as bs = true ↔
    ∀ e ∈ as, ∃ w, bs.get? e.1 = some w ∧ equal e.2 w = true := by
  induction as with
  | nil => simp [equalAttributes]
  | cons e as ih =>
    rw [equalAttributes, Bool.and_eq_true, ih, List.forall_mem_cons]
    refine and_congr_left fun _ => ?_
    show _ ↔ ∃ w, List.lookup e.1 bs = some w ∧ _
    cases List.lookup e.1 bs <;> simp

theorem equalItems_iff {as bs : List ElementValue} :
    equalItems as bs = true ↔ List.Forall₂ (fun a b => equal a b = true) as bs := by
  induction as generalizing bs with
  | nil => cases bs <;> simp [equalItems]
  | cons a as ih => cases bs <;> simp [equalItems, ih]

theorem equal_nested_iff {t : String} {as : Attributes} {b : ElementValue} :
    equal (nested t as) b = true ↔ ∃ bs, b = nested t bs ∧ as.length = bs.length ∧
      ∀ e ∈ as, ∃ w, Table.get? bs e.1 = some w ∧ equal e.2 w = true := by
  cases b with
  | nested u bs =>
    simp only [equal, Bool.and_eq_true, beq_iff_eq, equalAttributes_iff, and_assoc]
    constructor
    · rintro ⟨rfl, h⟩
      exact ⟨bs, rfl, h⟩
    · rintro ⟨_, hb, h⟩
      cases hb
      exact ⟨rfl, h⟩
  | _ => simp [equal]

theorem equal_array_iff {as : List ElementValue} {b : ElementValue} :
    equal (array as) b = true ↔
      ∃ bs, b = array bs ∧ List.Forall₂ (fun a b => equal a b = true) as bs := by
  cases b <;> simp [equal, equalItems_iff]

/-- Induction over a value and all values in it. -/
@[elab_as_elim]
theorem inductOn {p : ElementValue → Prop} (v : ElementValue) (plain : ∀ v, v.IsPlain → p v)
    (float : ∀ x, p (float x)) (double : ∀ x, p (double x))
    (nested : ∀ t (as : Attributes), (∀ e ∈ as, p e.2) → p (nested t as))
    (array : ∀ vs, (∀ v ∈ vs, p v) → p (array vs)) : p v := by
  match v with
  | .float x => exact float x
  | .double x => exact double x
  | .nested t as => exact nested t as fun e he => inductOn e.2 plain float double nested array
  | .array vs => exact array vs fun v hv => inductOn v plain float double nested array
  | .bool _ | .byte _ | .char _ | .short _ | .int _ | .long _ | .string _ | .classLiteral _
  | .enumConstant _ _ => exact plain _ trivial
termination_by sizeOf v
decreasing_by
  · have he := List.sizeOf_lt_of_mem he
    obtain ⟨name, v⟩ := e
    simp only [Prod.mk.sizeOf_spec, ElementValue.nested.sizeOf_spec] at he ⊢
    omega
  · have hv := List.sizeOf_lt_of_mem hv
    simp only [ElementValue.array.sizeOf_spec]
    omega

theorem everywhere_nested_iff {p : ElementValue → Prop} {t : String} {as : Attributes} :
    (nested t as).Everywhere p ↔ p (nested t as) ∧ ∀ e ∈ as, e.2.Everywhere p := by
  have h : EverywhereAttributes p as ↔ ∀ e ∈ as, e.2.Everywhere p := by
    induction as with
    | nil => simp [EverywhereAttributes]
    | cons e as ih => rw [EverywhereAttributes, ih, List.forall_mem_cons]
  rw [Everywhere, h]

theorem everywhere_array_iff {p : ElementValue → Prop} {vs : List ElementValue} :
    (array vs).Everywhere p ↔ p (array vs) ∧ ∀ v ∈ vs, v.Everywhere p := by
  have h : EverywhereItems p vs ↔ ∀ v ∈ vs, v.Everywhere p := by
    induction vs with
    | nil => simp [EverywhereItems]
    | cons v vs ih => rw [EverywhereItems, ih, List.forall_mem_cons]
  rw [Everywhere, h]

theorem IsPlain.everywhere_iff {p : ElementValue → Prop} {v : ElementValue} (h : v.IsPlain) :
    v.Everywhere p ↔ p v := by
  cases v with
  | float _ | double _ | nested _ _ | array _ => exact h.elim
  | _ => rfl

/-! ## The laws -/

/-- As many different names as on the other side, and all of them there: these are all. -/
theorem keys_perm_of_subset {as bs : Attributes} (hn : (Table.keys as).Nodup)
    (hsub : Table.keys as ⊆ Table.keys bs) (hlen : as.length = bs.length) :
    (Table.keys as).Perm (Table.keys bs) := by
  refine (hn.subperm hsub).perm_of_length_le ?_
  simp [Table.keys, hlen]

theorem equal_symm {a b : ElementValue} (ha : a.Everywhere NamesApart) (h : equal a b = true) :
    equal b a = true := by
  induction a using inductOn generalizing b with
  | plain a hplain =>
    obtain rfl := (equal_plain_iff hplain).1 h
    exact h
  | float x =>
    obtain ⟨y, rfl, hxy⟩ := equal_float_iff.1 h
    exact equal_float_iff.2 ⟨x, rfl, hxy.symm⟩
  | double x =>
    obtain ⟨y, rfl, hxy⟩ := equal_double_iff.1 h
    exact equal_double_iff.2 ⟨x, rfl, hxy.symm⟩
  | nested t as ih =>
    obtain ⟨hn, hapart⟩ := everywhere_nested_iff.1 ha
    obtain ⟨bs, rfl, hlen, has⟩ := equal_nested_iff.1 h
    have hsub : Table.keys as ⊆ Table.keys bs := by
      intro name hname
      obtain ⟨e, he, rfl⟩ := List.mem_map.1 hname
      obtain ⟨w, hw, -⟩ := has e he
      exact List.mem_map.2 ⟨(e.1, w), Table.mem_of_get? hw, rfl⟩
    have hperm := keys_perm_of_subset hn hsub hlen
    refine equal_nested_iff.2 ⟨as, rfl, hlen.symm, fun e he => ?_⟩
    -- the name of each attribute on the right comes on the left, and just there
    obtain ⟨e', he', hname⟩ := List.mem_map.1 (hperm.mem_iff.2 (List.mem_map_of_mem he))
    obtain ⟨w, hw, hequal⟩ := has e' he'
    rw [hname, Table.get?_of_mem (hperm.nodup hn) he] at hw
    obtain rfl := Option.some.inj hw
    exact ⟨e'.2, hname ▸ Table.get?_of_mem hn he', ih e' he' (hapart e' he') hequal⟩
  | array as ih =>
    obtain ⟨-, hapart⟩ := everywhere_array_iff.1 ha
    obtain ⟨bs, rfl, has⟩ := equal_array_iff.1 h
    have hsymm : ∀ a ∈ as, ∀ b, equal a b = true → equal b a = true :=
      fun a ha b hab => ih a ha (hapart a ha) hab
    have hitems := (List.forall₂_and_left _ _).2 ⟨hsymm, has⟩
    exact equal_array_iff.2 ⟨as, rfl, (hitems.imp fun a b hab => hab.1 b hab.2).flip⟩

theorem equal_trans {a b c : ElementValue} (hab : equal a b = true) (hbc : equal b c = true) :
    equal a c = true := by
  induction a using inductOn generalizing b c with
  | plain a hplain =>
    obtain rfl := (equal_plain_iff hplain).1 hab
    exact hbc
  | float x =>
    obtain ⟨y, rfl, hxy⟩ := equal_float_iff.1 hab
    obtain ⟨z, rfl, hyz⟩ := equal_float_iff.1 hbc
    exact equal_float_iff.2 ⟨z, rfl, hxy.trans hyz⟩
  | double x =>
    obtain ⟨y, rfl, hxy⟩ := equal_double_iff.1 hab
    obtain ⟨z, rfl, hyz⟩ := equal_double_iff.1 hbc
    exact equal_double_iff.2 ⟨z, rfl, hxy.trans hyz⟩
  | nested t as ih =>
    obtain ⟨bs, rfl, hlen, has⟩ := equal_nested_iff.1 hab
    obtain ⟨cs, rfl, hlen', hbs⟩ := equal_nested_iff.1 hbc
    refine equal_nested_iff.2 ⟨cs, rfl, hlen.trans hlen', fun e he => ?_⟩
    obtain ⟨w, hw, hvw⟩ := has e he
    obtain ⟨x, hx, hwx⟩ := hbs (e.1, w) (Table.mem_of_get? hw)
    exact ⟨x, hx, ih e he hvw hwx⟩
  | array as ih =>
    obtain ⟨bs, rfl, has⟩ := equal_array_iff.1 hab
    obtain ⟨cs, rfl, hbs⟩ := equal_array_iff.1 hbc
    refine equal_array_iff.2 ⟨cs, rfl, ?_⟩
    clear hab hbc
    induction has generalizing cs with
    | nil =>
      cases hbs
      exact .nil
    | cons hvw _ ihs =>
      obtain ⟨ihv, ihvs⟩ := List.forall_mem_cons.1 ih
      cases hbs with
      | cons hwx hbs => exact .cons (ihv hvw hwx) (ihs ihvs _ hbs)

/-- The value is no NaN of either format. -/
def NotNaN : ElementValue → Prop
  | float x => x.isNaN = false
  | double x => x.isNaN = false
  | _ => True

theorem equal_self_iff {a : ElementValue} (ha : a.Everywhere NamesApart) :
    equal a a = true ↔ a.Everywhere NotNaN := by
  induction a using inductOn with
  | plain a hplain =>
    rw [hplain.everywhere_iff, equal_plain_iff hplain]
    cases a with
    | float _ | double _ | nested _ _ | array _ => exact hplain.elim
    | _ => exact iff_of_true rfl trivial
  | float x =>
    have hx : equal (float x) (float x) = true ↔ _ := Single.equal_iff
    exact hx.trans equalNumbers_self_iff
  | double x =>
    have hx : equal (double x) (double x) = true ↔ _ := Double.equal_iff
    exact hx.trans equalNumbers_self_iff
  | nested t as ih =>
    obtain ⟨hn, hapart⟩ := everywhere_nested_iff.1 ha
    rw [everywhere_nested_iff]
    constructor
    · intro h
      obtain ⟨_, hb, -, has⟩ := equal_nested_iff.1 h
      cases hb
      refine ⟨trivial, fun e he => ?_⟩
      obtain ⟨w, hw, hequal⟩ := has e he
      rw [Table.get?_of_mem hn he] at hw
      obtain rfl := Option.some.inj hw
      exact (ih e he (hapart e he)).1 hequal
    · rintro ⟨-, h⟩
      exact equal_nested_iff.2 ⟨as, rfl, rfl, fun e he =>
        ⟨e.2, Table.get?_of_mem hn he, (ih e he (hapart e he)).2 (h e he)⟩⟩
  | array as ih =>
    obtain ⟨-, hapart⟩ := everywhere_array_iff.1 ha
    have hitems : equal (array as) (array as) = true ↔ ∀ a ∈ as, equal a a = true :=
      equalItems_iff.trans List.forall₂_same
    rw [hitems, everywhere_array_iff]
    exact ⟨fun h => ⟨trivial, fun a ha => (ih a ha (hapart a ha)).1 (h a ha)⟩,
      fun h a ha => (ih a ha (hapart a ha)).2 (h.2 a ha)⟩

/-! ## Attributes in another order -/

/-- The attributes of one annotation in the value are put in another order. -/
inductive Rearranges : ElementValue → ElementValue → Prop
  | here {t as bs} : as.Perm bs → Rearranges (nested t as) (nested t bs)
  | value {t name v w} (before after) : Rearranges v w →
      Rearranges (nested t (before ++ (name, v) :: after))
        (nested t (before ++ (name, w) :: after))
  | item {v w} (before after) : Rearranges v w →
      Rearranges (array (before ++ v :: after)) (array (before ++ w :: after))

/-- On the left of an equality it makes no difference, even if names are repeated. -/
theorem Rearranges.equal_left {a a' : ElementValue} (h : Rearranges a a') (b : ElementValue) :
    equal a b = true ↔ equal a' b = true := by
  induction h generalizing b with
  | here hperm =>
    rw [equal_nested_iff, equal_nested_iff]
    simp only [hperm.length_eq, hperm.mem_iff]
  | value _ _ _ ih =>
    rw [equal_nested_iff, equal_nested_iff]
    simp only [List.forall_mem_append, List.forall_mem_cons, ih, List.length_append,
      List.length_cons]
  | @item v w before after _ ih =>
    have hitems : ∀ bs, equalItems (before ++ v :: after) bs = true ↔
        equalItems (before ++ w :: after) bs = true := by
      induction before with
      | nil =>
        intro bs
        cases bs <;> simp [equalItems, ih]
      | cons u before ihbefore =>
        intro bs
        cases bs <;> simp [equalItems, ihbefore]
    simp only [equal_array_iff, ← equalItems_iff, hitems]

theorem Rearranges.namesApart {a a' : ElementValue} (h : Rearranges a a')
    (ha : a.Everywhere NamesApart) : a'.Everywhere NamesApart := by
  induction h with
  | here hperm =>
    obtain ⟨hn, hin⟩ := everywhere_nested_iff.1 ha
    exact everywhere_nested_iff.2 ⟨(hperm.map Prod.fst).nodup hn,
      fun e he => hin e (hperm.mem_iff.2 he)⟩
  | value _ _ _ ih =>
    obtain ⟨hn, hin⟩ := everywhere_nested_iff.1 ha
    refine everywhere_nested_iff.2 ⟨?_, ?_⟩
    · simpa [NamesApart, Table.keys] using hn
    · rw [List.forall_mem_append, List.forall_mem_cons] at hin ⊢
      exact ⟨hin.1, ih hin.2.1, hin.2.2⟩
  | item _ _ _ ih =>
    obtain ⟨-, hin⟩ := everywhere_array_iff.1 ha
    refine everywhere_array_iff.2 ⟨trivial, ?_⟩
    rw [List.forall_mem_append, List.forall_mem_cons] at hin ⊢
    exact ⟨hin.1, ih hin.2.1, hin.2.2⟩

/-- Any number of annotations in the value are rearranged. -/
abbrev Rearranged : ElementValue → ElementValue → Prop := Relation.ReflTransGen Rearranges

theorem Rearranged.equal_left {a a' : ElementValue} (h : Rearranged a a') (b : ElementValue) :
    equal a b = true ↔ equal a' b = true := by
  induction h with
  | refl => exact Iff.rfl
  | tail _ hstep ih => exact ih.trans (hstep.equal_left b)

theorem Rearranged.namesApart {a a' : ElementValue} (h : Rearranged a a')
    (ha : a.Everywhere NamesApart) : a'.Everywhere NamesApart := by
  induction h with
  | refl => exact ha
  | tail _ hstep ih => exact hstep.namesApart ih

theorem equal_comm {a b : ElementValue} (ha : a.Everywhere NamesApart)
    (hb : b.Everywhere NamesApart) : equal a b = true ↔ equal b a = true :=
  ⟨equal_symm ha, equal_symm hb⟩

theorem Rearranged.equal_iff {a a' b b' : ElementValue} (ha : a.Everywhere NamesApart)
    (hb : b.Everywhere NamesApart) (haa' : Rearranged a a') (hbb' : Rearranged b b') :
    equal a b = true ↔ equal a' b' = true := by
  calc equal a b = true
      ↔ equal b a = true := equal_comm ha hb
    _ ↔ equal b' a = true := hbb'.equal_left a
    _ ↔ equal a b' = true := equal_comm (hbb'.namesApart hb) ha
    _ ↔ equal a' b' = true := haa'.equal_left b'

/-! ## Main statement -/

/-- **Partial equivalence.**  Equality of values in which no annotation has two attributes of
    one name is symmetric and transitive, and a value equals itself iff no number in it is a
    NaN.  It does not change when the attributes of annotations, at any depth, are put in
    another order.  Zeros of either sign are equal, and arrays are compared in order. -/
theorem equal_partial_equivalence :
    (∀ a b : ElementValue, a.Everywhere NamesApart → equal a b = true → equal b a = true) ∧
    (∀ a b c : ElementValue, equal a b = true → equal b c = true → equal a c = true) ∧
    (∀ a : ElementValue, a.Everywhere NamesApart →
      (equal a a = true ↔ a.Everywhere NotNaN)) ∧
    (∀ a b a' b' : ElementValue, a.Everywhere NamesApart → b.Everywhere NamesApart →
      Rearranged a a' → Rearranged b b' → equal a' b' = equal a b) ∧
    (∀ x y : Single, x.isZero = true → y.isZero = true → equal (float x) (float y) = true) ∧
    (∀ x y : Double, x.isZero = true → y.isZero = true → equal (double x) (double y) = true) ∧
    ∀ as bs, equal (array as) (array bs) = true ↔
      List.Forall₂ (fun a b => equal a b = true) as bs := by
  refine ⟨fun a b => equal_symm, fun a b c => equal_trans, fun a => equal_self_iff,
    fun a b a' b' ha hb haa' hbb' => ?_, fun x y hx hy => ?_, fun x y hx hy => ?_,
    fun as bs => equalItems_iff⟩
  · exact Bool.eq_iff_iff.2 (Rearranged.equal_iff ha hb haa' hbb').symm
  · exact Single.equal_iff.2 (.of_isZero Single.not_isNaN_of_isZero hx hy)
  · exact Double.equal_iff.2 (.of_isZero Double.not_isNaN_of_isZero hx hy)

/-- An annotation in an annotation in an array, with a number in it. -/
def holding (x : Single) : ElementValue :=
  array [nested "a.A" [("x", float x), ("y", nested "a.B" [("u", int 1), ("v", string "s")])]]

/-- The same with the attributes of both annotations in another order. -/
def holdingApart (x : Single) : ElementValue :=
  array [nested "a.A" [("y", nested "a.B" [("v", string "s"), ("u", int 1)]), ("x", float x)]]

theorem rearranged_holding (x : Single) : Rearranged (holding x) (holdingApart x) := by
  have inner : Rearranges (nested "a.B" [("u", int 1), ("v", string "s")])
      (nested "a.B" [("v", string "s"), ("u", int 1)]) := .here (.swap _ _ _)
  have hinner : Rearranges (holding x) (array [nested "a.A" [("x", float x),
      ("y", nested "a.B" [("v", string "s"), ("u", int 1)])]]) :=
    .item [] [] (.value [("x", float x)] [] inner)
  exact .tail (.single hinner) (.item [] [] (.here (.swap _ _ _)))

/-- Zeros of both signs, attributes in another order at two depths, and a NaN. -/
theorem equal_partial_equivalence_holding :
    (holding ⟨0⟩).Everywhere NamesApart ∧
    equal (float ⟨0⟩) (float ⟨0x80000000⟩) = true ∧
    equal (holding ⟨0⟩) (holding ⟨0x80000000⟩) = true ∧
    equal (holding ⟨0x80000000⟩) (holding ⟨0⟩) = true ∧
    equal (holding ⟨0⟩) (holding ⟨0⟩) = true ∧
    equal (holdingApart ⟨0⟩) (holdingApart ⟨0x80000000⟩) = true ∧
    equal (holding ⟨0x7fc00000⟩) (holding ⟨0x7fc00000⟩) = false := by
  obtain ⟨hsymm, htrans, hself, hrearranged, hzero, -⟩ := equal_partial_equivalence
  have hapart : ∀ x, (holding x).Everywhere NamesApart := by
    simp [holding, Everywhere, EverywhereAttributes, EverywhereItems, NamesApart, Table.keys]
  have hequal : equal (holding ⟨0⟩) (holding ⟨0x80000000⟩) = true := by decide
  have hsymmetric := hsymm _ _ (hapart _) hequal
  refine ⟨hapart _, hzero _ _ (by decide) (by decide), hequal, hsymmetric,
    htrans _ _ _ hequal hsymmetric, ?_, ?_⟩
  · rw [hrearranged _ _ _ _ (hapart _) (hapart _) (rearranged_holding _) (rearranged_holding _)]
    exact hequal
  · rw [← Bool.not_eq_true, hself _ (hapart _)]
    intro h
    simp only [holding, everywhere_array_iff, everywhere_nested_iff, List.forall_mem_cons] at h
    exact absurd (show Single.isNaN ⟨0x7fc00000⟩ = false from h.2.1.2.1) (by decide)

end ElementValue

end ClassCatalog
