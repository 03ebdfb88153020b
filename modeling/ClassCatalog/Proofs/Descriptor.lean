/-
  Which texts are read as descriptors.

  A class name ends at the first `;`, so a type can be found again in a text iff its
  class name holds none (`Delimited`); brackets and parentheses in a class name do no
  harm.

  * `readType_eq_ok_iff`, `readMethod_eq_ok_iff`: what is read, and what is left over,
    in terms of the descriptors of types;
  * `name_inj`: a legal type is known by its name;
  * `types_read_back`: the descriptors of all types and methods are read, and give the
    names of the types;
  * `descriptors_accepted`: which other texts are read as descriptors.  A text that
    closes the parenthesis that it is put in, and goes on with a return type, is
    one (`closed_early`).
-/
import ClassCatalog.FieldType.Descriptor
import ClassCatalog.Proofs.Name
import Mathlib.Data.List.TakeWhile
import Mathlib.Tactic.Common

namespace ClassCatalog

namespace BaseType

theorem ofCode?_eq_some_iff {c : Char} {b : BaseType} :
    ofCode? c = some b ↔ c = b.code := by
  constructor
  · intro h
    unfold ofCode? at h
    split at h <;> simp only [Option.some.injEq, reduceCtorEq] at h <;> subst h <;> rfl
  · rintro rfl
    cases b <;> rfl

/-- A character that stands for no primitive type, such as `[` or `L`. -/
theorem ne_code {c : Char} (h : ofCode? c = none) (b : BaseType) : c ≠ b.code := by
  rintro rfl
  rw [ofCode?_eq_some_iff.2 rfl] at h
  cases h

theorem name_inj {b b' : BaseType} (h : b.name = b'.name) : b = b' := by
  cases b <;> cases b' <;> first | rfl | exact absurd h (by decide)

theorem code_inj {b b' : BaseType} : b.code = b'.code ↔ b = b' := by
  rw [← ofCode?_eq_some_iff, ofCode?_eq_some_iff.2 rfl, Option.some.injEq]

end BaseType

namespace FieldType

/-! ## Names -/

/-- Dimensions are added up, wherever the count starts. -/
theorem elementName_succ (t : FieldType) (n : Nat) :
    t.elementName (n + 1) = ((t.elementName n).1, (t.elementName n).2 + 1) := by
  induction t generalizing n with
  | base b => rfl
  | object c => rfl
  | array t ih => exact ih (n + 1)

theorem brackets_succ (n : Nat) : brackets (n + 1) = brackets n ++ "[]" := by
  rw [brackets, List.replicate_succ', List.flatten_concat, String.ofList_append]
  rfl

@[simp] theorem name_base (b : BaseType) : (base b).name = b.name := String.append_empty

@[simp] theorem name_object (c : String) : (object c).name = Name.qualified c :=
  String.append_empty

/-- The name of an array is that of its component with a pair of brackets. -/
@[simp] theorem name_array (t : FieldType) : (array t).name = t.name ++ "[]" := by
  have h : (array t).elementName 0 = ((t.elementName 0).1, (t.elementName 0).2 + 1) :=
    elementName_succ t 0
  simp only [name, h, brackets_succ, String.append_assoc]

/-- No keyword of a primitive type has a character that stands between the parts of a
    name. -/
theorem plain_name (b : BaseType) :
    '.' ∉ b.name.toList ∧ '[' ∉ b.name.toList ∧ Name.qualified b.name = b.name := by
  cases b <;> decide

/-- A class name with no character that has a meaning of its own in descriptors or in
    qualified names, other than the keywords of the primitive types. -/
structure LegalName (c : String) : Prop where
  dotless : '.' ∉ c.toList
  delimited : ';' ∉ c.toList
  bracketless : '[' ∉ c.toList
  not_keyword : ∀ b : BaseType, c ≠ b.name

/-- The class name in the type is legal. -/
def Legal : FieldType → Prop
  | base _ => True
  | object c => LegalName c
  | array t => t.Legal

theorem LegalName.qualified_ne {c : String} (hc : LegalName c) (b : BaseType) :
    Name.qualified c ≠ b.name := by
  intro h
  obtain ⟨hdot, -, hb⟩ := plain_name b
  exact hc.not_keyword b (Name.qualified_inj hc.dotless hdot (h.trans hb.symm))

/-- Brackets stand in the names of arrays only. -/
theorem bracket_mem_name {t : FieldType} (ht : t.Legal) :
    '[' ∈ t.name.toList ↔ ∃ s, t = array s := by
  cases t with
  | base b =>
    rw [name_base]
    exact iff_of_false (plain_name b).2.1 nofun
  | object c =>
    rw [name_object, Name.toList_qualified, List.mem_map]
    refine iff_of_false ?_ nofun
    rintro ⟨x, hx, h⟩
    split_ifs at h
    · exact absurd h (by decide)
    · exact ht.bracketless (h ▸ hx)
  | array t =>
    rw [name_array, String.toList_append]
    exact iff_of_true (List.mem_append_right _ List.mem_cons_self) ⟨t, rfl⟩

/-- A legal type is known by its name. -/
theorem name_inj {s t : FieldType} (hs : s.Legal) (ht : t.Legal) (h : s.name = t.name) : s = t := by
  induction s generalizing t with
  | base b =>
    cases t with
    | base b' =>
      rw [name_base, name_base] at h
      rw [BaseType.name_inj h]
    | object c =>
      rw [name_base, name_object] at h
      exact absurd h.symm (LegalName.qualified_ne ht b)
    | array t =>
      have hmem := (bracket_mem_name (t := array t) ht).2 ⟨t, rfl⟩
      rw [← h, bracket_mem_name hs] at hmem
      obtain ⟨_, hmem⟩ := hmem
      cases hmem
  | object c =>
    cases t with
    | base b =>
      rw [name_base, name_object] at h
      exact absurd h (LegalName.qualified_ne hs b)
    | object c' =>
      rw [name_object, name_object] at h
      rw [Name.qualified_inj hs.dotless ht.dotless h]
    | array t =>
      have hmem := (bracket_mem_name (t := array t) ht).2 ⟨t, rfl⟩
      rw [← h, bracket_mem_name hs] at hmem
      obtain ⟨_, hmem⟩ := hmem
      cases hmem
  | array s ih =>
    have hmem := (bracket_mem_name (t := array s) hs).2 ⟨s, rfl⟩
    rw [h, bracket_mem_name ht] at hmem
    obtain ⟨t, rfl⟩ := hmem
    rw [name_array, name_array, String.append_left_inj] at h
    rw [ih hs (t := t) ht h]

/-! ## One type -/

/-- No class name in the type holds the character that ends class names. -/
def Delimited : FieldType → Prop
  | base _ => True
  | object c => ';' ∉ c.toList
  | array t => t.Delimited

/-- The text starts with the descriptor of the type and goes on with the rest.  A class
    name that the text ends with need not be closed. -/
def Leads (t : FieldType) (cs rest : List Char) : Prop :=
  t.Delimited ∧ (cs = t.descriptorChars ++ rest ∨ rest = [] ∧ cs ++ [';'] = t.descriptorChars)

section

variable {whole : String} {t : FieldType} {cs rest : List Char}

theorem readType_base (b : BaseType) : readType whole (b.code :: rest) = .ok (base b, rest) := by
  cases b <;> rfl

theorem readType_array_iff : readType whole ('[' :: cs) = .ok (t, rest) ↔
    ∃ s, t = array s ∧ readType whole cs = .ok (s, rest) := by
  rw [readType]
  rcases readType whole cs with fault | ⟨s, rest'⟩
  · simp
  · simp [eq_comm, and_comm]

/-- A character that begins no type. -/
theorem readType_of_unknown {c : Char} (hb : c ≠ '[') (hl : c ≠ 'L')
    (hc : BaseType.ofCode? c = none) : readType whole (c :: cs) = .error (.unknownCode c) := by
  rw [readType]
  · rw [hc]
  · exact hb
  · exact hl

/-- A class name is all up to the first `;`, or to the end of the text. -/
theorem className_iff {text name : List Char} :
    text.takeWhile (· ≠ ';') = name ∧ (text.dropWhile (· ≠ ';')).drop 1 = rest ↔
      ';' ∉ name ∧ (text = name ++ ';' :: rest ∨ rest = [] ∧ text = name) := by
  induction text generalizing name with
  | nil => cases name <;> simp [eq_comm]
  | cons c text ih =>
    rcases eq_or_ne c ';' with rfl | hc
    · cases name with
      | nil => simp
      | cons x name =>
        have hx : ';' ∉ x :: name → ';' ≠ x := fun h hx => h (hx ▸ List.mem_cons_self)
        simp only [List.takeWhile_cons, List.cons_append, List.cons.injEq]
        constructor
        · rintro ⟨h, -⟩
          simp at h
        · rintro ⟨h, ⟨h', -⟩ | ⟨-, h', -⟩⟩ <;> exact absurd h' (hx h)
    · cases name with
      | nil => simp [hc]
      | cons x name =>
        have ih := @ih name
        simp only [List.takeWhile_cons, List.dropWhile_cons, hc, List.cons_append, List.cons.injEq,
          ne_eq, not_false_eq_true, decide_true, if_true, List.mem_cons, not_or, and_assoc, ih]
        constructor
        · rintro ⟨rfl, h, h'⟩
          exact ⟨hc.symm, h, h'.imp (⟨rfl, ·⟩) fun ⟨hr, ht⟩ => ⟨hr, rfl, ht⟩⟩
        · rintro ⟨-, h, ⟨rfl, h'⟩ | ⟨hr, rfl, h'⟩⟩
          · exact ⟨rfl, h, .inl h'⟩
          · exact ⟨rfl, h, .inr ⟨hr, h'⟩⟩

theorem leads_cons_iff {c : Char} : t.Leads (c :: cs) rest ↔
    match t with
    | base b => c = b.code ∧ cs = rest
    | object name => c = 'L' ∧ ';' ∉ name.toList ∧
        (cs = name.toList ++ ';' :: rest ∨ rest = [] ∧ cs = name.toList)
    | array s => c = '[' ∧ s.Leads cs rest := by
  cases t with
  | base b => simp [Leads, Delimited, descriptorChars]
  | object name =>
    simp only [Leads, Delimited, descriptorChars, List.cons_append, List.append_assoc,
      List.nil_append, List.cons.injEq, List.append_cancel_right_eq]
    tauto
  | array s =>
    simp only [Leads, Delimited, descriptorChars, List.cons_append, List.cons.injEq]
    tauto

/-- No type leads the empty text. -/
theorem not_leads_nil : ¬ t.Leads [] rest := by
  rintro ⟨-, h | ⟨-, h⟩⟩
  · cases t <;> cases h
  · cases t with
    | base b => exact BaseType.ne_code rfl b (List.cons.inj h).1
    | object name => cases h
    | array s => cases h

/-- **One type.**  What is read is the type that leads the text. -/
theorem readType_eq_ok_iff : readType whole cs = .ok (t, rest) ↔ t.Leads cs rest := by
  induction cs generalizing t with
  | nil => simp [readType, not_leads_nil]
  | cons c cs ih =>
    rw [leads_cons_iff]
    rcases eq_or_ne c '[' with rfl | hb
    · rw [readType_array_iff]
      cases t with
      | base b => simp [BaseType.ne_code (c := '[') rfl]
      | object c => simp
      | array t => simp [ih]
    rcases eq_or_ne c 'L' with rfl | hl
    · have hread : readType whole ('L' :: cs) =
          .ok (object (String.ofList (cs.takeWhile (· ≠ ';'))),
            (cs.dropWhile (· ≠ ';')).drop 1) := rfl
      rw [hread]
      cases t with
      | base b => simp [BaseType.ne_code (c := 'L') rfl]
      | object name => simp [← className_iff, String.ext_iff]
      | array t => simp
    cases hc : BaseType.ofCode? c with
    | none =>
      rw [readType_of_unknown hb hl hc]
      cases t with
      | base b => simp [BaseType.ne_code hc]
      | object name => simp [hl]
      | array t => simp [hb]
    | some b =>
      obtain rfl := BaseType.ofCode?_eq_some_iff.1 hc
      rw [readType_base]
      cases t with
      | base b' => simp [BaseType.code_inj]
      | object name => simp [hl]
      | array t => simp [hb]

theorem Leads.of_descriptor (ht : t.Delimited) (rest : List Char) :
    t.Leads (t.descriptorChars ++ rest) rest := ⟨ht, .inl rfl⟩

/-! ## The parts of a method descriptor -/

/-- A descriptor does not begin with the parenthesis that ends the parameters. -/
theorem Leads.ne_closing {c : Char} (h : t.Leads (c :: cs) rest) : c ≠ ')' := by
  rw [leads_cons_iff] at h
  cases t with
  | base b => exact fun hc => BaseType.ne_code rfl b (hc.symm.trans h.1)
  | object name => rw [h.1]; decide
  | array s => rw [h.1]; decide

/-- The parameters are read up to the first parenthesis that stands between two types. -/
theorem readParameters_of_leads {fuel : Nat} {ts : List FieldType} {after : List Char}
    (h : t.Leads cs rest) (hrest : readParameters whole fuel rest = .ok (ts, after)) :
    readParameters whole (fuel + 1) cs = .ok (t :: ts, after) := by
  cases cs with
  | nil => exact absurd h not_leads_nil
  | cons c cs =>
    rw [readParameters, readType_eq_ok_iff.2 h]
    · dsimp only
      rw [hrest]
    · exact h.ne_closing

theorem length_descriptorChars_pos (t : FieldType) : 0 < t.descriptorChars.length := by
  cases t <;> simp [descriptorChars]

theorem readParameters_descriptors {ts : List FieldType} (hts : ∀ t ∈ ts, t.Delimited)
    (after : List Char) {fuel : Nat}
    (hfuel : (ts.flatMap descriptorChars ++ ')' :: after).length ≤ fuel) :
    readParameters whole fuel (ts.flatMap descriptorChars ++ ')' :: after) = .ok (ts, after) := by
  induction ts generalizing fuel with
  | nil => cases fuel <;> rfl
  | cons t ts ih =>
    rw [List.flatMap_cons, List.append_assoc] at hfuel ⊢
    have hpos := t.length_descriptorChars_pos
    rw [List.length_append] at hfuel
    obtain ⟨fuel, rfl⟩ : ∃ n, fuel = n + 1 := ⟨fuel - 1, by omega⟩
    have hlead := Leads.of_descriptor (hts t List.mem_cons_self)
      (ts.flatMap descriptorChars ++ ')' :: after)
    refine readParameters_of_leads hlead (ih (fun s hs => hts s (List.mem_cons_of_mem t hs)) ?_)
    omega

/-- Parameters that something follows are the types with the descriptors in front of the
    parenthesis. -/
theorem eq_of_readParameters {ts : List FieldType} {after : List Char} {fuel : Nat}
    (h : readParameters whole fuel cs = .ok (ts, after)) (hafter : after ≠ []) :
    (∀ t ∈ ts, t.Delimited) ∧ cs = ts.flatMap descriptorChars ++ ')' :: after := by
  fun_induction readParameters whole fuel cs generalizing ts with
  | case1 => cases h; exact absurd rfl hafter
  | case2 fuel rest =>
    cases h
    exact ⟨by simp, rfl⟩
  | case3 c rest hc => cases h
  | case4 fuel c rest hc fault ht => cases h
  | case5 fuel c rest hc t rest' ht ts' after' hts ih =>
    cases h
    obtain ⟨hd, hcs | ⟨rfl, -⟩⟩ := readType_eq_ok_iff.1 ht
    · obtain ⟨hds, hrest⟩ := ih hts
      refine ⟨List.forall_mem_cons.2 ⟨hd, hds⟩, ?_⟩
      rw [hcs, hrest, List.flatMap_cons, List.append_assoc]
    · -- an open class name leaves nothing to follow
      have hnil : readParameters whole fuel [] = .ok ([], []) := by cases fuel <;> rfl
      cases hnil.symm.trans hts
      exact absurd rfl hafter
  | case6 fuel c rest hc t rest' ht fault hts ih => cases h

/-- The text starts with the return type: `V` for no value, or the descriptor of a type. -/
def Returns (r : Option FieldType) (cs : List Char) : Prop :=
  match r with
  | none => ∃ rest, cs = 'V' :: rest
  | some t => ∃ rest, t.Leads cs rest

theorem readReturn_eq_ok_iff {r : Option FieldType} :
    readReturn whole cs = .ok r ↔ Returns r cs := by
  by_cases hv : ∃ rest, cs = 'V' :: rest
  · obtain ⟨rest, rfl⟩ := hv
    cases r with
    | none => simp [readReturn, Returns]
    | some t =>
      have hread : readType whole ('V' :: rest) = .error (.unknownCode 'V') := rfl
      simp [readReturn, Returns, ← @readType_eq_ok_iff whole, hread]
  · have hread : readReturn whole cs = (readType whole cs).map fun p => some p.1 := by
      rw [readReturn]
      · rcases readType whole cs with fault | ⟨t, rest⟩ <;> rfl
      · exact fun rest h => hv ⟨rest, h⟩
    rw [hread]
    cases r with
    | none =>
      simp only [Returns, hv, iff_false]
      rcases readType whole cs with fault | ⟨t, rest⟩ <;> exact nofun
    | some t =>
      simp only [Returns, ← @readType_eq_ok_iff whole]
      rcases readType whole cs with fault | ⟨t, rest⟩ <;> simp [Except.map]

/-! ## Methods -/

/-- **Method descriptors.**  What is read are the parameters up to the first parenthesis
    that stands between two types, and the return type after it. -/
theorem readMethod_eq_ok_iff {ts : List FieldType} {r : Option FieldType} :
    readMethod whole = .ok (ts, r) ↔ (∀ t ∈ ts, t.Delimited) ∧
      ∃ after, whole.toList = '(' :: (ts.flatMap descriptorChars ++ ')' :: after) ∧
        Returns r after := by
  constructor
  · intro h
    unfold readMethod at h
    split at h
    · rename_i text hwhole
      split at h
      · cases h
      · rename_i ts' after hts
        split at h
        · rename_i r' hr
          cases h
          have hafter : after ≠ [] := by
            rintro rfl
            cases hr
          obtain ⟨hd, htext⟩ := eq_of_readParameters hts hafter
          exact ⟨hd, after, htext ▸ hwhole, readReturn_eq_ok_iff.1 hr⟩
        · cases h
    · cases h
  · rintro ⟨hd, after, hwhole, hr⟩
    simp only [readMethod, hwhole, readParameters_descriptors hd after le_rfl,
      readReturn_eq_ok_iff.2 hr]

end

theorem methodTypes_eq_ok_iff {d name : String} {names : List String} :
    methodTypes d = .ok (name, names) ↔
      ∃ ts r, readMethod d = .ok (ts, r) ∧ name = returnName r ∧ names = ts.map FieldType.name := by
  rw [methodTypes]
  rcases readMethod d with fault | ⟨ts, r⟩
  · simp
  · simp only [Except.ok.injEq, Prod.mk.injEq]
    constructor
    · rintro ⟨rfl, rfl⟩
      exact ⟨ts, r, ⟨rfl, rfl⟩, rfl, rfl⟩
    · rintro ⟨_, _, ⟨rfl, rfl⟩, rfl, rfl⟩
      exact ⟨rfl, rfl⟩

/-! ## Fields -/

/-- A type begins the text: brackets, and then the character of a primitive type or `L`. -/
def BeginsType : List Char → Prop
  | [] => False
  | c :: cs => c = 'L' ∨ (∃ b : BaseType, c = b.code) ∨ c = '[' ∧ BeginsType cs

/-- A return type begins the text. -/
def BeginsReturn (cs : List Char) : Prop := (∃ rest, cs = 'V' :: rest) ∨ BeginsType cs

theorem exists_leads_iff {cs : List Char} :
    (∃ (t : FieldType) (rest : List Char), t.Leads cs rest) ↔ BeginsType cs := by
  induction cs with
  | nil => simp [not_leads_nil, BeginsType]
  | cons c cs ih =>
    rw [BeginsType, ← ih]
    constructor
    · rintro ⟨t, rest, h⟩
      rw [leads_cons_iff] at h
      cases t with
      | base b => exact .inr (.inl ⟨b, h.1⟩)
      | object name => exact .inl h.1
      | array s => exact .inr (.inr ⟨h.1, s, rest, h.2⟩)
    · rintro (rfl | ⟨b, rfl⟩ | ⟨rfl, t, rest, h⟩)
      · exact ⟨_, _, (@readType_eq_ok_iff "" _ _ _).1 rfl⟩
      · exact ⟨base b, cs, leads_cons_iff.2 ⟨rfl, rfl⟩⟩
      · exact ⟨array t, rest, leads_cons_iff.2 ⟨rfl, h⟩⟩

theorem exists_returns_iff {cs : List Char} : (∃ r, Returns r cs) ↔ BeginsReturn cs := by
  rw [BeginsReturn, ← exists_leads_iff, Option.exists]
  rfl

/-- A closing parenthesis behind the text makes no difference to how it begins. -/
theorem beginsReturn_append (cs : List Char) :
    BeginsReturn (cs ++ [')', 'V']) ↔ BeginsReturn cs := by
  have htype : BeginsType (cs ++ [')', 'V']) ↔ BeginsType cs := by
    induction cs with
    | nil => simp [BeginsType, BaseType.ne_code (c := ')') rfl]
    | cons c cs ih => simp [BeginsType, ih]
  rw [BeginsReturn, BeginsReturn, htype]
  cases cs <;> simp

/-- Where a text that is put in parentheses is closed: at its end, or before. -/
theorem append_closing_iff {text front after : List Char} :
    text ++ [')', 'V'] = front ++ ')' :: after ↔
      text = front ∧ after = ['V'] ∨
        ∃ rest, text = front ++ ')' :: rest ∧ after = rest ++ [')', 'V'] := by
  rw [List.append_eq_append_iff]
  constructor
  · rintro (⟨as, rfl, h⟩ | ⟨bs, rfl, h⟩)
    · cases as with
      | nil =>
        obtain ⟨-, rfl⟩ := List.cons.inj h
        exact .inl ⟨(List.append_nil text).symm, rfl⟩
      | cons c as => cases as <;> simp at h
    · cases bs with
      | nil =>
        obtain ⟨-, rfl⟩ := List.cons.inj h
        exact .inl ⟨List.append_nil front, rfl⟩
      | cons c bs =>
        obtain ⟨rfl, rfl⟩ := List.cons.inj h
        exact .inr ⟨bs, rfl, rfl⟩
  · rintro (⟨rfl, rfl⟩ | ⟨rest, rfl, rfl⟩)
    · exact .inl ⟨[], by simp⟩
    · exact .inr ⟨')' :: rest, by simp⟩

/-- A field type is what is read as the only parameter. -/
theorem fieldTypeName_eq_ok_iff {d n : String} : fieldTypeName d = .ok n ↔
    ∃ t r, readMethod ("(" ++ d ++ ")V") = .ok ([t], r) ∧ t.name = n := by
  have hread : fieldTypeName d = .ok n ↔
      ∃ name, methodTypes ("(" ++ d ++ ")V") = .ok (name, [n]) := by
    rw [fieldTypeName]
    rcases methodTypes ("(" ++ d ++ ")V") with e | ⟨name, names⟩
    · simp
    · rcases names with _ | ⟨m, _ | ⟨m', names⟩⟩ <;> simp
  rw [hread]
  constructor
  · rintro ⟨name, h⟩
    obtain ⟨ts, r, hm, rfl, hn⟩ := methodTypes_eq_ok_iff.1 h
    obtain ⟨t, rfl, rfl⟩ := List.map_eq_singleton_iff.1 hn.symm
    exact ⟨t, r, hm, rfl⟩
  · rintro ⟨t, r, hm, rfl⟩
    exact ⟨returnName r, methodTypes_eq_ok_iff.2 ⟨[t], r, hm, rfl, rfl⟩⟩

theorem toList_descriptor (t : FieldType) : t.descriptor.toList = t.descriptorChars :=
  String.toList_ofList

/-- The text is the descriptor of the type, or begins with it, a closing parenthesis and a
    return type. -/
theorem exists_readMethod_iff {d : String} {t : FieldType} :
    (∃ r, readMethod ("(" ++ d ++ ")V") = .ok ([t], r)) ↔ t.Delimited ∧
      (d = t.descriptor ∨ ∃ rest, d = t.descriptor ++ ")" ++ rest ∧ BeginsReturn rest.toList) := by
  have hwhole : ("(" ++ d ++ ")V").toList = '(' :: (d.toList ++ [')', 'V']) := by
    simp [String.toList_append]
  have hread : (∃ r, readMethod ("(" ++ d ++ ")V") = .ok ([t], r)) ↔ t.Delimited ∧
      ∃ after, d.toList ++ [')', 'V'] = t.descriptorChars ++ ')' :: after ∧ BeginsReturn after := by
    simp only [readMethod_eq_ok_iff, hwhole, ← exists_returns_iff, List.forall_mem_singleton,
      List.flatMap_singleton, List.cons.injEq, true_and]
    constructor
    · rintro ⟨r, hd, after, htext, hr⟩
      exact ⟨hd, after, htext, r, hr⟩
    · rintro ⟨hd, after, htext, r, hr⟩
      exact ⟨r, hd, after, htext, hr⟩
  rw [hread]
  refine and_congr_right fun _ => ?_
  simp only [append_closing_iff, ← String.toList_inj, String.toList_append, toList_descriptor]
  constructor
  · rintro ⟨after, ⟨h, -⟩ | ⟨rest, h, rfl⟩, hr⟩
    · exact .inl h
    · refine .inr ⟨String.ofList rest, by simp [h], ?_⟩
      rw [String.toList_ofList]
      exact (beginsReturn_append rest).1 hr
  · rintro (h | ⟨rest, h, hr⟩)
    · exact ⟨['V'], .inl ⟨h, rfl⟩, .inl ⟨[], rfl⟩⟩
    · refine ⟨rest.toList ++ [')', 'V'], .inr ⟨rest.toList, ?_, rfl⟩, (beginsReturn_append _).2 hr⟩
      simp [h]

theorem Legal.delimited {t : FieldType} (ht : t.Legal) : t.Delimited := by
  induction t with
  | base b => trivial
  | object c => exact LegalName.delimited ht
  | array t ih => exact ih ht

/-- The descriptor of a type is read as the type. -/
theorem fieldTypeName_descriptor {t : FieldType} (ht : t.Delimited) :
    fieldTypeName t.descriptor = .ok t.name := by
  obtain ⟨r, hread⟩ := exists_readMethod_iff.2 ⟨ht, .inl rfl⟩
  exact fieldTypeName_eq_ok_iff.2 ⟨t, r, hread, rfl⟩

/-! ## Main statements -/

/-- **Types are read back.**  The descriptor of a method gives the names of its return type
    and of its parameters, in order, and the descriptor of a field gives the name of its
    type, as long as no class name holds a `;`.  The name of an array is that of its
    component and a pair of brackets, and class names are qualified. -/
theorem types_read_back :
    (∀ (ts : List FieldType) (r : Option FieldType),
      (∀ t ∈ ts, t.Delimited) → (∀ t ∈ r, t.Delimited) →
        methodTypes (methodDescriptor ts r) = .ok (returnName r, ts.map FieldType.name)) ∧
    (∀ t : FieldType, t.Delimited → fieldTypeName t.descriptor = .ok t.name) ∧
    (∀ b, (base b).name = b.name) ∧ (∀ c, (object c).name = Name.qualified c) ∧
    (∀ t, (array t).name = t.name ++ "[]") ∧ returnName none = "void" := by
  refine ⟨fun ts r hts hr => ?_, fun t ht => fieldTypeName_descriptor ht, name_base, name_object,
    name_array, rfl⟩
  refine methodTypes_eq_ok_iff.2 ⟨ts, r, readMethod_eq_ok_iff.2 ⟨hts, returnChars r, ?_, ?_⟩,
    rfl, rfl⟩
  · exact String.toList_ofList
  · cases r with
    | none => exact ⟨[], rfl⟩
    | some t => exact ⟨[], hr t rfl, .inl (List.append_nil _).symm⟩

/-- Parentheses in a class name, and dimensions around it. -/
theorem types_read_back_parenthesized :
    let types := [array (array (object "a(b)/c)V")), base .int]
    let result := some (array (base .long))
    (∀ t ∈ types, t.Delimited) ∧ (∀ t ∈ result, t.Delimited) ∧
      methodDescriptor types result = "([[La(b)/c)V;I)[J" ∧
      methodTypes "([[La(b)/c)V;I)[J" = .ok ("long[]", ["a(b).c)V[][]", "int"]) ∧
      fieldTypeName "[[La(b)/c)V;" = .ok "a(b).c)V[][]" := by
  intro types result
  have hname : (array (array (object "a(b)/c)V"))).Delimited :=
    show ';' ∉ "a(b)/c)V".toList by decide
  have htypes : ∀ t ∈ types, t.Delimited :=
    List.forall_mem_cons.2 ⟨hname, List.forall_mem_singleton.2 trivial⟩
  have hresult : ∀ t ∈ result, t.Delimited := by
    intro t ht
    cases Option.some.inj ht
    trivial
  have hmethod : methodDescriptor types result = "([[La(b)/c)V;I)[J" := by decide
  have hfield : (array (array (object "a(b)/c)V"))).descriptor = "[[La(b)/c)V;" := by decide
  refine ⟨htypes, hresult, hmethod, ?_, ?_⟩
  · rw [← hmethod, types_read_back.1 types result htypes hresult]
    decide
  · rw [← hfield, types_read_back.2.1 _ hname]
    decide

/-- **Accepted descriptors.**  A text is accepted as the descriptor of a field iff it is
    the descriptor of one type, or begins with one, a closing parenthesis and a return
    type; a text that is not accepted is the one that the error speaks of.  A text is
    accepted as the descriptor of a method iff it begins with the descriptors of the
    parameters in parentheses and a return type. -/
theorem descriptors_accepted (d : String) :
    (∀ n, fieldTypeName d = .ok n ↔ ∃ t : FieldType, t.Delimited ∧ t.name = n ∧
      (d = t.descriptor ∨ ∃ rest, d = t.descriptor ++ ")" ++ rest ∧ BeginsReturn rest.toList)) ∧
    (∀ e, fieldTypeName d = .error e → e.descriptor = d) ∧
    ∀ name names, methodTypes d = .ok (name, names) ↔
      ∃ (ts : List FieldType) (r : Option FieldType), (∀ t ∈ ts, t.Delimited) ∧
        name = returnName r ∧ names = ts.map FieldType.name ∧
        ∃ after, d.toList = '(' :: (ts.flatMap descriptorChars ++ ')' :: after) ∧
          Returns r after := by
  refine ⟨fun n => ?_, fun e he => ?_, fun name names => ?_⟩
  · rw [fieldTypeName_eq_ok_iff]
    constructor
    · rintro ⟨t, r, hm, hn⟩
      obtain ⟨ht, h⟩ := exists_readMethod_iff.1 ⟨r, hm⟩
      exact ⟨t, ht, hn, h⟩
    · rintro ⟨t, ht, hn, h⟩
      obtain ⟨r, hm⟩ := exists_readMethod_iff.2 ⟨ht, h⟩
      exact ⟨t, r, hm, hn⟩
  · rw [fieldTypeName] at he
    split at he <;> cases he <;> rfl
  · simp only [methodTypes_eq_ok_iff, readMethod_eq_ok_iff]
    constructor
    · rintro ⟨ts, r, ⟨hts, after, htext, hr⟩, hname, hnames⟩
      exact ⟨ts, r, hts, hname, hnames, after, htext, hr⟩
    · rintro ⟨ts, r, hts, hname, hnames, after, htext, hr⟩
      exact ⟨ts, r, ⟨hts, after, htext, hr⟩, hname, hnames⟩

/-- A text may close the parenthesis that it is put in, and a method descriptor may go on
    behind its return type. -/
theorem closed_early :
    fieldTypeName "I)V" = .ok "int" ∧ (¬ ∃ t : FieldType, "I)V" = t.descriptor) ∧
      methodTypes "(I)Vx" = .ok ("void", ["int"]) := by
  refine ⟨by decide, ?_, by decide⟩
  rintro ⟨t, h⟩
  have hchars : ['I', ')', 'V'] = t.descriptorChars := by
    rw [← toList_descriptor, ← h]
    rfl
  cases t <;> simp [descriptorChars] at hchars

end FieldType

end ClassCatalog
