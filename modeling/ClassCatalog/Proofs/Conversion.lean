/-
  Element values tell elements apart.

  The elements of a class file refer to constants by index.  In a legal element each
  constant is of the right kind, in the range of the type that it stands for.

  * `Legal`, `Same`: legal elements, and elements that say the same, whichever indices
    they say it with.  Surrogates, for which there is no character, are replaced by
    U+FFFD and so are not told apart (`PoolConstant.Replaced`);
  * `scalar_same_iff`, `typeName_same_iff`: values and type names give their constants back;
  * `same_iff`: so the values of two legal elements are equal iff the elements say the
    same, by induction on the elements;
  * `elements_by_value`: legal elements have values, of which that is so.
-/
import ClassCatalog.Proofs.Descriptor
import ClassCatalog.Proofs.Nesting

namespace ClassCatalog.ClassFile

open Writer (Reads)
open FieldType (LegalName)

/-! ## Legal elements -/

/-- The constants that a scalar of a kind may have. -/
inductive ScalarKind.Takes : ScalarKind → PoolConstant → Prop
  | boolean {v : Int32} (h : v = 0 ∨ v = 1) : Takes .boolean (.integer v)
  | byte {v : Int32} (h : -128 ≤ v.toInt ∧ v.toInt < 128) : Takes .byte (.integer v)
  | char {v : Int32} (h : 0 ≤ v.toInt ∧ v.toInt < 65536) : Takes .char (.integer v)
  | short {v : Int32} (h : -32768 ≤ v.toInt ∧ v.toInt < 32768) : Takes .short (.integer v)
  | int (v : Int32) : Takes .int (.integer v)
  | long (v : Int64) : Takes .long (.long v)
  | float (v : Single) : Takes .float (.float v)
  | double (v : Double) : Takes .double (.double v)
  | string (s : String) : Takes .string (.utf8 s)
  | void : Takes .classLiteral (.utf8 "V")
  | classLiteral {t : FieldType} (h : t.Legal) (hv : t ≠ .object "void") :
    Takes .classLiteral (.utf8 t.descriptor)

/-- The constant is a text. -/
def IsText (p : Pool) (i : Nat) : Prop := ∃ s, p.get? i = some (.utf8 s)

/-- The constant is the descriptor of an object type. -/
def NamesObject (p : Pool) (i : Nat) : Prop :=
  ∃ c, LegalName c ∧ p.get? i = some (.utf8 (FieldType.object c).descriptor)

mutual

/-- All indices resolve to constants that may stand there, and no annotation in the element
    has two elements of one name. -/
def Legal (p : Pool) : Element → Prop
  | .scalar kind i => ∃ c, p.get? i = some c ∧ kind.Takes c
  | .enumConstant type constant => NamesObject p type ∧ IsText p constant
  | .nested type pairs =>
    NamesObject p type ∧ (pairs.map fun x => p.get? x.1).Nodup ∧ LegalPairs p pairs
  | .array items => LegalItems p items

def LegalPairs (p : Pool) : List (Nat × Element) → Prop
  | [] => True
  | (i, e) :: pairs => IsText p i ∧ Legal p e ∧ LegalPairs p pairs

def LegalItems (p : Pool) : List Element → Prop
  | [] => True
  | e :: items => Legal p e ∧ LegalItems p items

end

/-! ## Elements that say the same -/

/-- The constant is the code of a surrogate, or of the character that stands for one. -/
def PoolConstant.Replaced : PoolConstant → Prop
  | .integer v => 0xD800 ≤ v.toInt ∧ v.toInt ≤ 0xDFFF ∨ v.toInt = 0xFFFD
  | _ => False

mutual

/-- The elements are of one shape, and their constants are equal, but for characters that
    are replaced in both. -/
def Same (p : Pool) : Element → Element → Prop
  | .scalar kind i, .scalar kind' i' =>
    kind = kind' ∧ (p.get? i = p.get? i' ∨
      kind = .char ∧ (∃ c ∈ p.get? i, c.Replaced) ∧ ∃ c ∈ p.get? i', c.Replaced)
  | .enumConstant type constant, .enumConstant type' constant' =>
    p.get? type = p.get? type' ∧ p.get? constant = p.get? constant'
  | .nested type pairs, .nested type' pairs' =>
    p.get? type = p.get? type' ∧ SamePairs p pairs pairs'
  | .array items, .array items' => SameItems p items items'
  | _, _ => False

def SamePairs (p : Pool) : List (Nat × Element) → List (Nat × Element) → Prop
  | [], [] => True
  | (i, e) :: pairs, (i', e') :: pairs' =>
    p.get? i = p.get? i' ∧ Same p e e' ∧ SamePairs p pairs pairs'
  | _, _ => False

def SameItems (p : Pool) : List Element → List Element → Prop
  | [], [] => True
  | e :: items, e' :: items' => Same p e e' ∧ SameItems p items items'
  | _, _ => False

end

variable {p : Pool} {i i' : Nat}

/-! ## Scalars -/

/-- The code of the character that is made of a code. -/
theorem toNat_charOfCode {v : Int32} (h : 0 ≤ v.toInt ∧ v.toInt < 65536) :
    ((charOfCode v).toNat : Int) =
      if 0xD800 ≤ v.toInt ∧ v.toInt ≤ 0xDFFF then 0xFFFD else v.toInt := by
  have hn : (v.toUInt32.toNat : Int) = v.toInt := by
    have hint : v.toInt = v.toBitVec.toInt := rfl
    have hnat : v.toUInt32.toNat = v.toBitVec.toNat := rfl
    rw [hint, BitVec.toInt_eq_toNat_cond] at h ⊢
    split_ifs at h ⊢ <;> omega
  rw [charOfCode]
  by_cases hv : v.toUInt32.toNat.isValidChar
  · have hplain : ¬ (0xD800 ≤ v.toInt ∧ v.toInt ≤ 0xDFFF) := by
      unfold Nat.isValidChar at hv
      omega
    rw [if_pos hv, if_neg hplain, Char.ofNat, dif_pos hv, ← hn]
    rfl
  · have hsurrogate : 0xD800 ≤ v.toInt ∧ v.toInt ≤ 0xDFFF := by
      unfold Nat.isValidChar at hv
      omega
    rw [if_neg hv, if_pos hsurrogate]
    rfl

/-- Codes of one character are equal, or they are those of characters that are replaced. -/
theorem charOfCode_eq_iff {v w : Int32} (hv : 0 ≤ v.toInt ∧ v.toInt < 65536)
    (hw : 0 ≤ w.toInt ∧ w.toInt < 65536) : charOfCode v = charOfCode w ↔
      v = w ∨ (PoolConstant.integer v).Replaced ∧ (PoolConstant.integer w).Replaced := by
  have hv' := toNat_charOfCode hv
  have hw' := toNat_charOfCode hw
  rw [← Char.toNat_inj, ← Int32.toInt_inj, PoolConstant.Replaced, PoolConstant.Replaced]
  split_ifs at hv' hw' <;> omega

theorem toInt8_inj {v w : Int32} (hv : -128 ≤ v.toInt ∧ v.toInt < 128)
    (hw : -128 ≤ w.toInt ∧ w.toInt < 128) : v.toInt8 = w.toInt8 ↔ v = w := by
  rw [← Int8.toInt_inj, Int32.toInt_toInt8, Int32.toInt_toInt8,
    Int.bmod_eq_of_le (by omega) (by omega), Int.bmod_eq_of_le (by omega) (by omega),
    Int32.toInt_inj]

theorem toInt16_inj {v w : Int32} (hv : -32768 ≤ v.toInt ∧ v.toInt < 32768)
    (hw : -32768 ≤ w.toInt ∧ w.toInt < 32768) : v.toInt16 = w.toInt16 ↔ v = w := by
  rw [← Int16.toInt_inj, Int32.toInt_toInt16, Int32.toInt_toInt16,
    Int.bmod_eq_of_le (by omega) (by omega), Int.bmod_eq_of_le (by omega) (by omega),
    Int32.toInt_inj]

/-! ### Names of types -/

theorem descriptor_ne_void (t : FieldType) : t.descriptor ≠ "V" := by
  intro h
  have hchars := congrArg String.toList h
  rw [FieldType.toList_descriptor] at hchars
  cases t with
  | base b => cases b <;> exact absurd hchars (by decide)
  | object c => exact absurd (List.cons.inj hchars).1 (by decide)
  | array t => exact absurd (List.cons.inj hchars).1 (by decide)

/-- The name of a type is found at its descriptor. -/
theorem typeName_of_descriptor {t : FieldType} (ht : t.Legal)
    (h : p.get? i = some (.utf8 t.descriptor)) : p.typeName i = .ok t.name := by
  rw [Pool.typeName, Pool.text_of_get? h]
  refine (if_neg (descriptor_ne_void t)).trans ?_
  rw [FieldType.fieldTypeName_descriptor ht.delimited]
  rfl

/-- Legal types with one name have one descriptor. -/
theorem name_eq_iff {s t : FieldType} (hs : s.Legal) (ht : t.Legal) :
    s.name = t.name ↔ s.descriptor = t.descriptor := by
  constructor
  · intro h
    rw [FieldType.name_inj hs ht h]
  · intro h
    have hread := FieldType.fieldTypeName_descriptor hs.delimited
    rw [h, FieldType.fieldTypeName_descriptor ht.delimited] at hread
    exact (Except.ok.inj hread).symm

theorem typeName_of_void (h : p.get? i = some (.utf8 "V")) : p.typeName i = .ok "void" := by
  rw [Pool.typeName, Pool.text_of_get? h]
  rfl

/-- No other type has the name of no type. -/
theorem name_ne_void {t : FieldType} (ht : t.Legal) (hv : t ≠ .object "void") :
    t.name ≠ "void" := by
  intro h
  cases t with
  | base b =>
    rw [FieldType.name_base] at h
    cases b <;> exact absurd h (by decide)
  | object c =>
    rw [FieldType.name_object] at h
    have hq : Name.qualified "void" = "void" := by decide
    refine hv (congrArg FieldType.object ?_)
    exact Name.qualified_inj (LegalName.dotless ht) (by decide) (h.trans hq.symm)
  | array t =>
    have hmem := (FieldType.bracket_mem_name ht).2 ⟨t, rfl⟩
    rw [h] at hmem
    exact absurd hmem (by decide)

/-! ### Legal scalars -/

theorem map_lookup {α : Type} {read : PoolConstant → Option α} {f : α → ElementValue}
    {c : PoolConstant} {a : α} (hc : p.get? i = some c) (ha : read c = some a) :
    ((p.lookup read i).mapError ReplayError.lookup).map f = .ok (f a) := by
  rw [Pool.lookup_of_get? hc ha]
  rfl

theorem map_typeName {f : String → ElementValue} {n : String} (h : p.typeName i = .ok n) :
    (p.typeName i).map f = .ok (f n) := by
  rw [h]
  rfl

/-- A legal scalar has a value. -/
theorem exists_scalarValue {kind : ScalarKind} {c : PoolConstant} (ht : kind.Takes c)
    (hc : p.get? i = some c) : ∃ v, scalarValue p i kind = .ok v := by
  cases ht with
  | classLiteral h => exact ⟨_, map_typeName (typeName_of_descriptor h hc)⟩
  | void => exact ⟨_, map_typeName (typeName_of_void hc)⟩
  | _ => exact ⟨_, map_lookup hc rfl⟩

/-- Legal scalars of one kind have equal values iff they say the same. -/
theorem scalar_same_iff {kind : ScalarKind} {v v' : ElementValue}
    (h : Legal p (.scalar kind i)) (h' : Legal p (.scalar kind i'))
    (hv : scalarValue p i kind = .ok v) (hv' : scalarValue p i' kind = .ok v') :
    v = v' ↔ Same p (.scalar kind i) (.scalar kind i') := by
  obtain ⟨c, hc, ht⟩ := h
  obtain ⟨c', hc', ht'⟩ := h'
  simp only [Same, hc, hc', true_and, Option.some.injEq, Option.mem_some, exists_eq_left']
  cases ht with
  | @boolean x hx =>
    cases ht' with | @boolean y hy =>
    cases hv.symm.trans (map_lookup hc rfl)
    cases hv'.symm.trans (map_lookup hc' rfl)
    rcases hx with rfl | rfl <;> rcases hy with rfl | rfl <;> simp
  | @byte x hx =>
    cases ht' with | @byte y hy =>
    cases hv.symm.trans (map_lookup hc rfl)
    cases hv'.symm.trans (map_lookup hc' rfl)
    simp [toInt8_inj hx hy]
  | @char x hx =>
    cases ht' with | @char y hy =>
    cases hv.symm.trans (map_lookup hc rfl)
    cases hv'.symm.trans (map_lookup hc' rfl)
    simp [charOfCode_eq_iff hx hy]
  | @short x hx =>
    cases ht' with | @short y hy =>
    cases hv.symm.trans (map_lookup hc rfl)
    cases hv'.symm.trans (map_lookup hc' rfl)
    simp [toInt16_inj hx hy]
  | void =>
    cases hv.symm.trans (map_typeName (typeName_of_void hc))
    cases ht' with
    | void =>
      cases hv'.symm.trans (map_typeName (typeName_of_void hc'))
      simp
    | @classLiteral t' ht' hn' =>
      cases hv'.symm.trans (map_typeName (typeName_of_descriptor ht' hc'))
      simp [(name_ne_void ht' hn').symm, (descriptor_ne_void t').symm]
  | @classLiteral t ht hn =>
    cases hv.symm.trans (map_typeName (typeName_of_descriptor ht hc))
    cases ht' with
    | void =>
      cases hv'.symm.trans (map_typeName (typeName_of_void hc'))
      simp [name_ne_void ht hn, descriptor_ne_void t]
    | @classLiteral t' ht' hn' =>
      cases hv'.symm.trans (map_typeName (typeName_of_descriptor ht' hc'))
      simp [name_eq_iff ht ht']
  | _ =>
    cases ht'
    cases hv.symm.trans (map_lookup hc rfl)
    cases hv'.symm.trans (map_lookup hc' rfl)
    simp

/-! ## Elements -/

theorem text_of_isText (h : IsText p i) : ∃ s, p.get? i = some (.utf8 s) ∧ p.text i = .ok s := by
  obtain ⟨s, hs⟩ := h
  exact ⟨s, hs, Pool.text_of_get? hs⟩

/-- Texts are equal iff their constants are. -/
theorem text_same_iff (h : IsText p i) (h' : IsText p i') {s s' : String} (hs : p.text i = .ok s)
    (hs' : p.text i' = .ok s') : s = s' ↔ p.get? i = p.get? i' := by
  obtain ⟨_, hc, ht⟩ := text_of_isText h
  obtain ⟨_, hc', ht'⟩ := text_of_isText h'
  cases hs.symm.trans ht
  cases hs'.symm.trans ht'
  simp [hc, hc']

theorem exists_typeName (h : NamesObject p i) : ∃ n, p.typeName i = .ok n := by
  obtain ⟨c, hc, hget⟩ := h
  exact ⟨_, typeName_of_descriptor (t := .object c) hc hget⟩

/-- Names of object types are equal iff the constants of their descriptors are. -/
theorem typeName_same_iff (h : NamesObject p i) (h' : NamesObject p i') {n n' : String}
    (hn : p.typeName i = .ok n) (hn' : p.typeName i' = .ok n') :
    n = n' ↔ p.get? i = p.get? i' := by
  obtain ⟨c, hc, hget⟩ := h
  obtain ⟨c', hc', hget'⟩ := h'
  cases hn.symm.trans (typeName_of_descriptor (t := .object c) hc hget)
  cases hn'.symm.trans (typeName_of_descriptor (t := .object c') hc' hget')
  rw [name_eq_iff (s := .object c) (t := .object c') hc hc', hget, hget']
  simp

theorem value_enumConstant_eq_ok_iff {type constant : Nat} {v : ElementValue} :
    value p (.enumConstant type constant) = .ok v ↔
      ∃ n c, p.typeName type = .ok n ∧ p.text constant = .ok c ∧ v = .enumConstant n c := by
  rw [value, bind_eq_ok_iff]
  constructor
  · rintro ⟨n, hn, h⟩
    obtain ⟨c, hc, h⟩ := bind_eq_ok_iff.1 h
    cases h
    exact ⟨n, c, hn, hc, rfl⟩
  · rintro ⟨n, c, hn, hc, rfl⟩
    exact ⟨n, hn, bind_eq_ok_iff.2 ⟨c, hc, rfl⟩⟩

mutual

/-- A legal element has a value. -/
theorem exists_value : (e : Element) → Legal p e → ∃ v, value p e = .ok v
  | .scalar kind i, h => by
    obtain ⟨c, hc, ht⟩ := h
    exact exists_scalarValue ht hc
  | .enumConstant type constant, h => by
    obtain ⟨n, hn⟩ := exists_typeName h.1
    obtain ⟨c, -, hc⟩ := text_of_isText h.2
    exact ⟨_, value_enumConstant_eq_ok_iff.2 ⟨n, c, hn, hc, rfl⟩⟩
  | .nested type pairs, h => by
    obtain ⟨n, hn⟩ := exists_typeName h.1
    obtain ⟨ys, hys⟩ := exists_reads pairs h.2.2
    exact ⟨_, value_nested_eq_ok_iff.2 ⟨n, ys, hn, hys, rfl⟩⟩
  | .array items, h => by
    obtain ⟨vs, hvs⟩ := exists_values items h
    exact ⟨_, value_array_eq_ok_iff.2 ⟨vs, hvs, rfl⟩⟩

theorem exists_reads : (pairs : List (Nat × Element)) → LegalPairs p pairs →
    ∃ ys, Reads p pairs ys
  | [], _ => ⟨[], .nil⟩
  | (i, e) :: pairs, h => by
    obtain ⟨name, -, hname⟩ := text_of_isText h.1
    obtain ⟨v, hv⟩ := exists_value e h.2.1
    obtain ⟨ys, hys⟩ := exists_reads pairs h.2.2
    exact ⟨(name, v) :: ys, .cons ⟨hname, hv⟩ hys⟩

theorem exists_values : (items : List Element) → LegalItems p items →
    ∃ vs, List.Forall₂ (fun e v => value p e = .ok v) items vs
  | [], _ => ⟨[], .nil⟩
  | e :: items, h => by
    obtain ⟨v, hv⟩ := exists_value e h.1
    obtain ⟨vs, hvs⟩ := exists_values items h.2
    exact ⟨v :: vs, .cons hv hvs⟩

end

/-! ### Forms -/

/-- What an element, or its value, is at its root. -/
inductive Form where
  | scalar (kind : ScalarKind)
  | enumConstant
  | nested
  | array

def Element.form : Element → Form
  | .scalar kind _ => .scalar kind
  | .enumConstant .. => .enumConstant
  | .nested .. => .nested
  | .array _ => .array

def formOf : ElementValue → Form
  | .bool _ => .scalar .boolean
  | .byte _ => .scalar .byte
  | .char _ => .scalar .char
  | .short _ => .scalar .short
  | .int _ => .scalar .int
  | .long _ => .scalar .long
  | .float _ => .scalar .float
  | .double _ => .scalar .double
  | .string _ => .scalar .string
  | .classLiteral _ => .scalar .classLiteral
  | .enumConstant .. => .enumConstant
  | .nested .. => .nested
  | .array _ => .array

theorem form_of_value {e : Element} {v : ElementValue} (h : value p e = .ok v) :
    formOf v = e.form := by
  cases e with
  | scalar kind i =>
    rw [value] at h
    cases kind <;> rw [scalarValue] at h <;> obtain ⟨a, -, rfl⟩ := exists_of_map_eq_ok h <;> rfl
  | enumConstant =>
    obtain ⟨n, c, -, -, rfl⟩ := value_enumConstant_eq_ok_iff.1 h
    rfl
  | nested =>
    obtain ⟨n, ys, -, -, rfl⟩ := value_nested_eq_ok_iff.1 h
    rfl
  | array =>
    obtain ⟨vs, -, rfl⟩ := value_array_eq_ok_iff.1 h
    rfl

theorem form_of_same {e e' : Element} (h : Same p e e') : e.form = e'.form := by
  cases e <;> cases e' <;> first | rfl | exact congrArg Form.scalar h.1 | cases h

/-- Elements of different forms have different values. -/
theorem same_iff_of_form {e e' : Element} {v v' : ElementValue} (hv : value p e = .ok v)
    (hv' : value p e' = .ok v') (h : e.form ≠ e'.form) : v = v' ↔ Same p e e' := by
  refine iff_of_false ?_ fun hs => h (form_of_same hs)
  rintro rfl
  exact h ((form_of_value hv).symm.trans (form_of_value hv'))

/-! ### Elements that have equal values -/

/-- The names of legal elements are as different as the constants that hold them. -/
theorem nodup_names {pairs : List (Nat × Element)} {ys : List (String × ElementValue)}
    (h : Reads p pairs ys) (hl : LegalPairs p pairs)
    (hn : (pairs.map fun x => p.get? x.1).Nodup) : (Table.keys ys).Nodup := by
  have hnames : (pairs.map fun x => p.get? x.1) =
      (Table.keys ys).map fun name => some (PoolConstant.utf8 name) := by
    clear hn
    induction h with
    | nil => rfl
    | @cons x y pairs ys hxy _ ih =>
      obtain ⟨name, hname, htext⟩ := text_of_isText hl.1
      cases hxy.1.symm.trans htext
      exact congr (congrArg List.cons hname) (ih hl.2.2)
  rw [hnames] at hn
  exact hn.of_map _

mutual

/-- Legal elements have equal values iff they say the same. -/
theorem same_iff : (e e' : Element) → Legal p e → Legal p e' → ∀ {v v' : ElementValue},
    value p e = .ok v → value p e' = .ok v' → (v = v' ↔ Same p e e')
  | .scalar kind i, e', h, h', v, v', hv, hv' => by
    cases e' with
    | scalar kind' i' =>
      by_cases hk : kind = kind'
      · subst hk
        rw [value] at hv hv'
        exact scalar_same_iff h h' hv hv'
      · exact same_iff_of_form hv hv' fun hform => hk (Form.scalar.inj hform)
    | _ => exact same_iff_of_form hv hv' nofun
  | .enumConstant type constant, e', h, h', v, v', hv, hv' => by
    cases e' with
    | enumConstant type' constant' =>
      obtain ⟨n, c, hn, hc, rfl⟩ := value_enumConstant_eq_ok_iff.1 hv
      obtain ⟨n', c', hn', hc', rfl⟩ := value_enumConstant_eq_ok_iff.1 hv'
      rw [ElementValue.enumConstant.injEq, Same, typeName_same_iff h.1 h'.1 hn hn',
        text_same_iff h.2 h'.2 hc hc']
    | _ => exact same_iff_of_form hv hv' nofun
  | .nested type pairs, e', h, h', v, v', hv, hv' => by
    cases e' with
    | nested type' pairs' =>
      obtain ⟨n, ys, hn, hys, rfl⟩ := value_nested_eq_ok_iff.1 hv
      obtain ⟨n', ys', hn', hys', rfl⟩ := value_nested_eq_ok_iff.1 hv'
      rw [Table.ofPuts_of_nodup (nodup_names hys h.2.2 h.2.1),
        Table.ofPuts_of_nodup (nodup_names hys' h'.2.2 h'.2.1), ElementValue.nested.injEq, Same,
        typeName_same_iff h.1 h'.1 hn hn', pairs_same_iff pairs pairs' h.2.2 h'.2.2 hys hys']
    | _ => exact same_iff_of_form hv hv' nofun
  | .array items, e', h, h', v, v', hv, hv' => by
    cases e' with
    | array items' =>
      obtain ⟨vs, hvs, rfl⟩ := value_array_eq_ok_iff.1 hv
      obtain ⟨vs', hvs', rfl⟩ := value_array_eq_ok_iff.1 hv'
      rw [ElementValue.array.injEq, Same, items_same_iff items items' h h' hvs hvs']
    | _ => exact same_iff_of_form hv hv' nofun

theorem pairs_same_iff : (pairs pairs' : List (Nat × Element)) → LegalPairs p pairs →
    LegalPairs p pairs' → ∀ {ys ys' : List (String × ElementValue)}, Reads p pairs ys →
    Reads p pairs' ys' → (ys = ys' ↔ SamePairs p pairs pairs')
  | [], [], _, _, _, _, .nil, .nil => iff_of_true rfl trivial
  | [], _ :: _, _, _, _, _, .nil, .cons .. => iff_of_false nofun fun h => h
  | _ :: _, [], _, _, _, _, .cons .., .nil => iff_of_false nofun fun h => h
  | (i, e) :: pairs, (i', e') :: pairs', h, h', (name, v) :: ys, (name', v') :: ys',
      .cons hy hys, .cons hy' hys' => by
    rw [List.cons.injEq, Prod.mk.injEq, SamePairs, and_assoc, text_same_iff h.1 h'.1 hy.1 hy'.1,
      same_iff e e' h.2.1 h'.2.1 hy.2 hy'.2, pairs_same_iff pairs pairs' h.2.2 h'.2.2 hys hys']

theorem items_same_iff : (items items' : List Element) → LegalItems p items →
    LegalItems p items' → ∀ {vs vs' : List ElementValue},
    List.Forall₂ (fun e v => value p e = .ok v) items vs →
    List.Forall₂ (fun e v => value p e = .ok v) items' vs' → (vs = vs' ↔ SameItems p items items')
  | [], [], _, _, _, _, .nil, .nil => iff_of_true rfl trivial
  | [], _ :: _, _, _, _, _, .nil, .cons .. => iff_of_false nofun fun h => h
  | _ :: _, [], _, _, _, _, .cons .., .nil => iff_of_false nofun fun h => h
  | e :: items, e' :: items', h, h', _, _, .cons hv hvs, .cons hv' hvs' => by
    rw [List.cons.injEq, SameItems, same_iff e e' h.1 h'.1 hv hv',
      items_same_iff items items' h.2 h'.2 hvs hvs']

end

/-! ## Main statements -/

/-- **Elements are known by their values.**  Two legal elements have values.  These are equal
    iff the elements are of one shape and their constants are equal, whichever indices hold
    them; only surrogates, and the character that stands for them, are not told apart. -/
theorem elements_by_value (p : Pool) (e e' : Element) (h : Legal p e) (h' : Legal p e') :
    ∃ v v', value p e = .ok v ∧ value p e' = .ok v' ∧ (v = v' ↔ Same p e e') := by
  obtain ⟨v, hv⟩ := exists_value e h
  obtain ⟨v', hv'⟩ := exists_value e' h'
  exact ⟨v, v', hv, hv', same_iff e e' h h' hv hv'⟩

/-- One annotation, with its element in two places of the pool. -/
theorem elements_by_value_relocated :
    let p : Pool := ⟨[some (.utf8 "La/A;"), some (.utf8 "x"), some (.integer 97),
      some (.utf8 "x"), some (.integer 97)]⟩
    let e : Element := .nested 1 [(2, .scalar .char 3)]
    let e' : Element := .nested 1 [(4, .scalar .char 5)]
    Legal p e ∧ Legal p e' ∧ ∃ v v', value p e = .ok v ∧ value p e' = .ok v' ∧ v = v' := by
  intro p e e'
  have hname : LegalName "a/A" :=
    ⟨by decide, by decide, by decide, fun b => by cases b <;> decide⟩
  have h : Legal p e :=
    ⟨⟨_, hname, rfl⟩, List.nodup_singleton _, ⟨"x", rfl⟩, ⟨_, rfl, .char (by decide)⟩, trivial⟩
  have h' : Legal p e' :=
    ⟨⟨_, hname, rfl⟩, List.nodup_singleton _, ⟨"x", rfl⟩, ⟨_, rfl, .char (by decide)⟩, trivial⟩
  obtain ⟨v, v', hv, hv', hsame⟩ := elements_by_value p e e' h h'
  refine ⟨h, h', v, v', hv, hv', hsame.2 ?_⟩
  exact ⟨rfl, rfl, ⟨rfl, .inl rfl⟩, trivial⟩

/-- Two surrogates that become one character. -/
theorem surrogates_merged :
    let p : Pool := ⟨[some (.integer 0xD800), some (.integer 0xD801)]⟩
    Legal p (.scalar .char 1) ∧ Legal p (.scalar .char 2) ∧
      value p (.scalar .char 1) = .ok (.char '\ufffd') ∧
      value p (.scalar .char 2) = .ok (.char '\ufffd') ∧ p.get? 1 ≠ p.get? 2 := by
  intro p
  exact ⟨⟨_, rfl, .char (by decide)⟩, ⟨_, rfl, .char (by decide)⟩, rfl, rfl, by decide⟩

end ClassCatalog.ClassFile
