/-
  Elements of an annotation that are read one at a time, and as arrays.

  * `View.holding`: an item taken alone, as the value of the element;
  * `View.Agrees`: how an array accessor goes with a scalar one.  By `agrees_of_read` it is
    enough that the first item that the array accessor does not take is none that the scalar
    accessor takes;
  * `View.arrays_agree`: so strings, constants of enums and annotations are read alike.
    Integers are not, where the first item that is no `int` would have to be widened.
-/
import ClassCatalog.Proofs.Nesting

namespace ClassCatalog

namespace ElementValue

variable {x y : ElementValue}

/-- The value is of one of the kinds that are widened to `int`. -/
def IsWidened : ElementValue → Prop
  | byte _ | char _ | short _ => True
  | _ => False

/-- The value, or the first item of it that is no `int`, would have to be widened. -/
def WidenedFirst (x : ElementValue) : Prop :=
  ∃ before y after, x.items = before ++ y :: after ∧ (∀ z ∈ before, ∃ n, z = .int n) ∧ y.IsWidened

theorem items_of_single (h : ∀ vs, x ≠ .array vs) : x.items = [x] := by
  cases x with
  | array vs => exact absurd rfl (h vs)
  | _ => rfl

theorem exactInt?_eq_some_iff {n : Int32} : x.exactInt? = some n ↔ x = .int n := by
  cases x <;> simp [exactInt?]

theorem exactInt?_of_isWidened (h : x.IsWidened) : x.exactInt? = none := by
  cases x <;> first | rfl | cases h

/-- What is taken as an integer either is an `int` or is widened. -/
theorem int?_eq_none_iff : x.int? = none ↔ x.exactInt? = none ∧ ¬ x.IsWidened := by
  cases x <;> simp [int?, exactInt?, IsWidened]

theorem exists_int?_of_isWidened (h : x.IsWidened) : ∃ n, x.int? = some n := by
  cases x <;> first | exact ⟨_, rfl⟩ | cases h

/-- Whether a value is widened is a matter of its kind. -/
theorem isWidened_of_kindName (h : y.IsWidened) (hxy : x.kindName = y.kindName) : x.IsWidened := by
  cases y <;> cases h <;> cases x <;> first | trivial | simp [kindName] at hxy

end ElementValue

namespace View

variable {v : View} {name : String} {x : ElementValue}

/-- The view in which the element has the value. -/
def holding (v : View) (name : String) (x : ElementValue) : View :=
  { v with attributes := v.attributes.put name x }

theorem value_holding (h : v.value name = .ok x) (y : ElementValue) :
    (v.holding name y).value name = .ok y := by
  have hdeclared : v.schema.declares name := by
    by_contra hnot
    rw [value, if_neg hnot] at h
    cases h
  exact value_of_get? hdeclared (Table.get?_put_self ..)

theorem reading_eq_error_iff {α : Type} {expected : String} {read : ElementValue → Option α}
    {error : AccessError} : v.reading name expected read x = .error error ↔
      read x = none ∧ .mismatch v.typeName name expected x.kindName = error := by
  rw [reading]
  rcases read x with _ | a <;> simp

theorem scalar_eq_ok_iff {α : Type} {expected : String} {read : ElementValue → Option α}
    (h : v.value name = .ok x) {a : α} : v.scalar name expected read = .ok a ↔ read x = some a := by
  rw [scalar, h]
  exact reading_eq_ok_iff

/-- An array is refused for its first item that is. -/
theorem arrayOf_eq_error_iff {α : Type} {expected : String} {read : ElementValue → Option α}
    (h : v.value name = .ok x) {error : AccessError} : v.arrayOf name expected read = .error error ↔
      ∃ before y after, x.items = before ++ y :: after ∧ (∀ z ∈ before, ∃ a, read z = some a) ∧
        read y = none ∧ .mismatch v.typeName name expected y.kindName = error := by
  simp only [arrayOf_of_value h, mapM_eq_error_iff, reading_eq_ok_iff, reading_eq_error_iff]

/-- What an array accessor gives for the value of an element agrees with what the scalar
    accessor gives for that value, or for its items. -/
structure Agrees {α : Type} (v : View) (name : String) (x : ElementValue) (expected : String)
    (one : View → Except AccessError α) (all : Except AccessError (List α)) : Prop where
  /-- A single value is the array of itself. -/
  single : (∀ items, x ≠ .array items) → ∀ a, one v = .ok a → all = .ok [a]
  /-- The items are read iff each of them would be, alone, and then they are read so. -/
  items : ∀ as, all = .ok as ↔
    List.Forall₂ (fun y a => one (v.holding name y) = .ok a) x.items as
  /-- If they are not, the first that would not be is found. -/
  refused : (∀ as, all ≠ .ok as) → ∃ before y after, x.items = before ++ y :: after ∧
    (∀ z ∈ before, ∃ a, one (v.holding name z) = .ok a) ∧
    (∀ a, one (v.holding name y) ≠ .ok a) ∧
    all = .error (.mismatch v.typeName name expected y.kindName)
  /-- No array is read as an item. -/
  nested : ∀ inner, .array inner ∈ x.items → ∀ as, all ≠ .ok as

section

variable {α : Type} {read readItem : ElementValue → Option α} {expectedArray : String}
  (hx : v.value name = .ok x) (hitem : ∀ {y a}, readItem y = some a → read y = some a)
  (hfirst : ∀ before y after, x.items = before ++ y :: after →
    (∀ z ∈ before, ∃ a, readItem z = some a) → readItem y = none → read y = none)

include hx hitem hfirst

/-- It makes no difference that the array accessor takes less, as long as the first item that
    it does not take is not taken by the scalar accessor either. -/
theorem arrayOf_eq_ok_iff_of_first {as : List α} :
    v.arrayOf name expectedArray readItem = .ok as ↔
      List.Forall₂ (fun y a => read y = some a) x.items as := by
  constructor
  · exact fun h => ((arrayOf_eq_ok_iff hx).1 h).imp fun _ _ => hitem
  · intro h
    cases hr : v.arrayOf name expectedArray readItem with
    | ok as' =>
      have h' := ((arrayOf_eq_ok_iff hx).1 hr).imp fun _ _ => hitem
      have hunique : Relator.RightUnique fun (y : ElementValue) a => read y = some a :=
        fun _ _ _ h₁ h₂ => Option.some.inj (h₁.symm.trans h₂)
      rw [List.right_unique_forall₂' hunique h' h]
    | error error =>
      obtain ⟨before, y, after, heq, hbefore, hy, -⟩ := (arrayOf_eq_error_iff hx).1 hr
      obtain ⟨a, ha⟩ := forall₂_of_mem h (heq ▸ List.mem_append_right before List.mem_cons_self)
      cases (hfirst before y after heq hbefore hy).symm.trans ha

theorem agrees_of_read (harray : ∀ items, read (.array items) = none) (expected : String) :
    v.Agrees name x expectedArray (·.scalar name expected read)
      (v.arrayOf name expectedArray readItem) := by
  have halone {y a} : (v.holding name y).scalar name expected read = .ok a ↔ read y = some a :=
    scalar_eq_ok_iff (value_holding hx y)
  have hitems (as) : v.arrayOf name expectedArray readItem = .ok as ↔ _ :=
    arrayOf_eq_ok_iff_of_first hx hitem hfirst
  refine ⟨fun hne a ha => ?_, fun as => ?_, fun hnone => ?_, fun inner hmem as has => ?_⟩
  · rw [hitems, ElementValue.items_of_single hne]
    exact .cons ((scalar_eq_ok_iff hx).1 ha) .nil
  · simp only [hitems, halone]
  · cases hr : v.arrayOf name expectedArray readItem with
    | ok as => exact absurd hr (hnone as)
    | error error =>
      obtain ⟨before, y, after, heq, hbefore, hy, rfl⟩ := (arrayOf_eq_error_iff hx).1 hr
      have hread := hfirst before y after heq hbefore hy
      refine ⟨before, y, after, heq, fun z hz => ?_, fun a ha => ?_, rfl⟩
      · obtain ⟨a, ha⟩ := hbefore z hz
        exact ⟨a, halone.2 (hitem ha)⟩
      · cases hread.symm.trans (halone.1 ha)
  · obtain ⟨a, ha⟩ := forall₂_of_mem ((hitems as).1 has) hmem
    cases (harray inner).symm.trans ha

end

/-- If the first item that is no `int` would have to be widened, the array is refused for it,
    although the scalar accessor takes it. -/
theorem not_agrees_of_widenedFirst (hx : v.value name = .ok x) (hw : x.WidenedFirst) :
    ¬ v.Agrees name x "int[]" (·.int name) (v.ints name) := by
  intro h
  obtain ⟨before, y, after, heq, hbefore, hy⟩ := hw
  have herror : v.ints name = .error (.mismatch v.typeName name "int[]" y.kindName) := by
    refine (arrayOf_eq_error_iff hx).2 ⟨before, y, after, heq, fun z hz => ?_, ?_, rfl⟩
    · obtain ⟨n, rfl⟩ := hbefore z hz
      exact ⟨n, rfl⟩
    · exact ElementValue.exactInt?_of_isWidened hy
  obtain ⟨-, y', -, -, -, hy', herror'⟩ := h.refused fun as has => by cases herror.symm.trans has
  -- only the kind of `y'` is known from the error; it is that of `y`
  have hkind : y'.kindName = y.kindName := by
    have heq := herror'.symm.trans herror
    injection heq with heq
    injection heq
  obtain ⟨n, hn⟩ :=
    ElementValue.exists_int?_of_isWidened (ElementValue.isWidened_of_kindName hy hkind)
  exact hy' n ((scalar_eq_ok_iff (value_holding hx y')).2 hn)

/-- **Accessors.**  Whatever the element holds, recorded or by default, strings, constants
    of enums and annotations are read alike one at a time and as arrays.  Integers are read
    alike just if it is not the case that the value, or the first item that is no `int`,
    would have to be widened. -/
theorem arrays_agree (v : View) (name : String) (schema : Schema) {x : ElementValue}
    (hx : v.value name = .ok x) :
    v.Agrees name x "string[]" (·.string name) (v.strings name) ∧
    v.Agrees name x "enum[]" (·.enumConstant name) (v.enumConstants name) ∧
    v.Agrees name x "annotation[]" (·.nested name schema) (v.nestedArray name schema) ∧
    (v.Agrees name x "int[]" (·.int name) (v.ints name) ↔ ¬ x.WidenedFirst) := by
  refine ⟨agrees_of_read hx id (fun _ _ _ _ _ => id) (fun _ => rfl) _,
    agrees_of_read hx id (fun _ _ _ _ _ => id) (fun _ => rfl) _,
    agrees_of_read hx id (fun _ _ _ _ _ => id) (fun _ => rfl) _,
    fun h hw => not_agrees_of_widenedFirst hx hw h, fun hw => ?_⟩
  refine agrees_of_read hx ?_ ?_ (fun _ => rfl) _
  · intro y n hn
    rw [ElementValue.exactInt?_eq_some_iff.1 hn]
    rfl
  · intro before y after heq hbefore hy
    simp only [ElementValue.exactInt?_eq_some_iff] at hbefore
    exact ElementValue.int?_eq_none_iff.2
      ⟨hy, fun hwidened => hw ⟨before, y, after, heq, hbefore, hwidened⟩⟩

/-- An array by default: its text comes before what would have to be widened. -/
theorem arrays_agree_mixed :
    let x : ElementValue := .array [.int 1, .string "s", .short 3]
    let v : View := ⟨⟨"a.A", [("x", some x)]⟩, []⟩
    v.value "x" = .ok x ∧ v.Agrees "x" x "int[]" (·.int "x") (v.ints "x") ∧
      v.ints "x" = .error (.mismatch "a.A" "x" "int[]" "string") := by
  intro x v
  have hx : v.value "x" = .ok x := rfl
  refine ⟨hx, (arrays_agree v "x" (.ofTypeName "a.B") hx).2.2.2.2 ?_, rfl⟩
  rintro ⟨_ | ⟨a, _ | ⟨b, before⟩⟩, y, after, heq, hbefore, hy⟩
  · cases heq
    exact hy
  · cases heq
    exact hy
  · obtain ⟨n, rfl⟩ := hbefore b (List.mem_cons_of_mem a List.mem_cons_self)
    cases (List.cons.inj (List.cons.inj heq).2).1

/-- A `short` is an integer, but no array of one. -/
theorem ints_of_short :
    let v : View := ⟨⟨"a.A", [("x", none)]⟩, [("x", .short 3)]⟩
    v.value "x" = .ok (.short 3) ∧ v.int "x" = .ok 3 ∧
      v.ints "x" = .error (.mismatch "a.A" "x" "int[]" "short") ∧
      ¬ v.Agrees "x" (.short 3) "int[]" (·.int "x") (v.ints "x") := by
  intro v
  refine ⟨rfl, rfl, rfl, fun h => ?_⟩
  have hints : v.ints "x" = .ok [3] := h.single nofun 3 rfl
  cases hints

end View

end ClassCatalog
