/-
  The value of an element, after any declarations and any recorded values.

  Both histories may name an element more than once.  What counts is the last time that
  each of them names it; a recorded value goes before a default, and a name that was never
  declared has no value at all.

  * `LastUnder`: what a history says of a name in the end, which is what a table of it
    holds (`get?_ofPuts_iff_lastUnder`);
  * `Resolves`: the four answers, one rule for each (`value_eq_iff_resolves`);
  * `AgreeOn`: histories with the same operations on a name.  Operations on other names
    may be put in (`AgreeOn.insert`), and neighbours with different names change places
    (`AgreeOn.swap`);
  * `value_of_histories`: what is read of an annotation through a schema.
-/
import ClassCatalog.Proofs.Capture

namespace ClassCatalog

/-! ## Histories -/

section History

variable {α : Type}

/-- The last operation on the name says `x`. -/
def LastUnder (history : List (String × α)) (name : String) (x : α) : Prop :=
  ∃ before after, history = before ++ (name, x) :: after ∧ name ∉ after.map (·.1)

/-- The same operations on the name, in the same order. -/
def AgreeOn (name : String) (history history' : List (String × α)) : Prop :=
  history.filter (·.1 = name) = history'.filter (·.1 = name)

theorem AgreeOn.insert {name : String} (e : String × α) (h : e.1 ≠ name)
    (before after : List (String × α)) : AgreeOn name (before ++ after) (before ++ e :: after) := by
  simp [AgreeOn, h]

theorem AgreeOn.swap (e e' : String × α) (h : e.1 ≠ e'.1) (name : String)
    (before after : List (String × α)) :
    AgreeOn name (before ++ e :: e' :: after) (before ++ e' :: e :: after) := by
  have hpair : [e, e'].filter (·.1 = name) = [e', e].filter (·.1 = name) := by
    by_cases he : e.1 = name
    · have he' : e'.1 ≠ name := fun he' => h (he.trans he'.symm)
      simp [he, he']
    · simp [List.filter_cons, he]
  show (before ++ ([e, e'] ++ after)).filter _ = (before ++ ([e', e] ++ after)).filter _
  simp only [List.filter_append, hpair]

theorem get?_ofPuts_iff_lastUnder {history : List (String × α)} {name : String} {x : α} :
    (Table.ofPuts history).get? name = some x ↔ LastUnder history name x :=
  Table.get?_ofPuts_eq_some_iff

theorem get?_ofPuts_eq_none_iff {history : List (String × α)} {name : String} :
    (Table.ofPuts history).get? name = none ↔ name ∉ history.map (·.1) := by
  rw [← Option.not_isSome_iff_eq_none, Table.isSome_get?_iff, Table.keys_ofPuts,
    List.mem_eraseDups]

theorem AgreeOn.get?_ofPuts {name : String} {history history' : List (String × α)}
    (h : AgreeOn name history history') :
    (Table.ofPuts history).get? name = (Table.ofPuts history').get? name := by
  have hreverse : history.reverse.filter (·.1 = name) = history'.reverse.filter (·.1 = name) := by
    rw [List.filter_reverse, List.filter_reverse, h]
  calc (Table.ofPuts history).get? name
      = Table.get? history.reverse name := Table.get?_ofPuts history name
    _ = Table.get? (history.reverse.filter (·.1 = name)) name := (Table.get?_filter _ name).symm
    _ = Table.get? (history'.reverse.filter (·.1 = name)) name := by rw [hreverse]
    _ = Table.get? history'.reverse name := Table.get?_filter _ name
    _ = (Table.ofPuts history').get? name := (Table.get?_ofPuts history' name).symm

end History

/-! ## Schemas and annotations -/

/-- Declares elements one after the other, each with its default if it has one. -/
def Schema.declareAll (s : Schema) (declared : List (String × Option ElementValue)) : Schema :=
  declared.foldl (fun s d => match d.2 with
    | none => s.element d.1
    | some v => s.elementWithDefault d.1 v) s

theorem Schema.declareAll_ofTypeName (typeName : String)
    (declared : List (String × Option ElementValue)) :
    (ofTypeName typeName).declareAll declared = ⟨typeName, Table.ofPuts declared⟩ := by
  induction declared using List.reverseRecOn with
  | nil => rfl
  | append_singleton declared d ih =>
    obtain ⟨name, default?⟩ := d
    rw [declareAll, List.foldl_append, Table.ofPuts_concat]
    rw [declareAll] at ih
    rw [ih]
    cases default? <;> rfl

/-- An annotation is captured with the values that were recorded on it, and whatever the
    scope held under its type is gone. -/
theorem Scope.handle?_setAll_start (scope : Scope) (type : String)
    (recorded : List (String × ElementValue)) :
    ((scope.start type).setAll type recorded).handle? type =
      some ⟨type, Table.ofPuts recorded⟩ := by
  rw [start, setAll_put, handle?, Table.get?_put_self]
  rfl

/-! ## Resolution -/

/-- What an element resolves to, after elements were declared and values recorded. -/
inductive Resolves (typeName : String) (declared : List (String × Option ElementValue))
    (recorded : List (String × ElementValue)) (name : String) :
    Except AccessError ElementValue → Prop
  /-- The name was never declared, whether or not a value was recorded. -/
  | undeclared : name ∉ declared.map (·.1) →
      Resolves typeName declared recorded name (.error (.undeclared typeName name))
  | recorded {v} : name ∈ declared.map (·.1) → LastUnder recorded name v →
      Resolves typeName declared recorded name (.ok v)
  /-- No value was recorded, and the last declaration has a default. -/
  | default {v} : name ∉ recorded.map (·.1) → LastUnder declared name (some v) →
      Resolves typeName declared recorded name (.ok v)
  | missing : name ∉ recorded.map (·.1) → LastUnder declared name none →
      Resolves typeName declared recorded name (.error (.missing typeName name))

/-- One of the four rules applies. -/
theorem exists_resolves (typeName : String) (declared : List (String × Option ElementValue))
    (recorded : List (String × ElementValue)) (name : String) :
    ∃ r, Resolves typeName declared recorded name r := by
  cases hdeclared : (Table.ofPuts declared).get? name with
  | none => exact ⟨_, .undeclared (get?_ofPuts_eq_none_iff.1 hdeclared)⟩
  | some default? =>
    cases hrecorded : (Table.ofPuts recorded).get? name with
    | some v =>
      have hmem : name ∈ declared.map (·.1) := by
        by_contra hnot
        rw [get?_ofPuts_eq_none_iff.2 hnot] at hdeclared
        cases hdeclared
      exact ⟨_, .recorded hmem (get?_ofPuts_iff_lastUnder.1 hrecorded)⟩
    | none =>
      have hnot : name ∉ recorded.map (·.1) := get?_ofPuts_eq_none_iff.1 hrecorded
      have hlast : LastUnder declared name default? := get?_ofPuts_iff_lastUnder.1 hdeclared
      cases default? with
      | some v => exact ⟨_, .default hnot hlast⟩
      | none => exact ⟨_, .missing hnot hlast⟩

namespace View

variable {typeName name : String} {declared : List (String × Option ElementValue)}
  {recorded : List (String × ElementValue)}

/-- The view of recorded values through a schema of declared elements. -/
def ofHistories (typeName : String) (declared : List (String × Option ElementValue))
    (recorded : List (String × ElementValue)) : View :=
  ⟨⟨typeName, Table.ofPuts declared⟩, Table.ofPuts recorded⟩

theorem declares_ofHistories :
    (ofHistories typeName declared recorded).schema.declares name = true ↔
      name ∈ declared.map (·.1) := by
  rw [ofHistories, Schema.declares, Table.contains, Table.isSome_get?_iff, Table.keys_ofPuts,
    List.mem_eraseDups]

theorem isExplicit_ofHistories :
    (ofHistories typeName declared recorded).isExplicit name = true ↔
      name ∈ recorded.map (·.1) := by
  rw [ofHistories, isExplicit, Table.contains, Table.isSome_get?_iff, Table.keys_ofPuts,
    List.mem_eraseDups]

theorem value_of_resolves {r : Except AccessError ElementValue}
    (h : Resolves typeName declared recorded name r) :
    (ofHistories typeName declared recorded).value name = r := by
  have mem_of_last : ∀ {default?}, LastUnder declared name default? →
      name ∈ declared.map (·.1) := by
    rintro default? ⟨before, after, rfl, -⟩
    simp
  cases h with
  | undeclared hdeclared =>
    rw [value, if_neg (mt declares_ofHistories.1 hdeclared)]
    rfl
  | recorded hdeclared hlast =>
    rw [value, if_pos (declares_ofHistories.2 hdeclared)]
    simp only [ofHistories, get?_ofPuts_iff_lastUnder.2 hlast]
  | default hrecorded hlast =>
    rw [value, if_pos (declares_ofHistories.2 (mem_of_last hlast))]
    simp only [ofHistories, get?_ofPuts_eq_none_iff.2 hrecorded, Schema.defaultValue?,
      get?_ofPuts_iff_lastUnder.2 hlast, Option.join_some]
  | missing hrecorded hlast =>
    rw [value, if_pos (declares_ofHistories.2 (mem_of_last hlast))]
    simp only [ofHistories, get?_ofPuts_eq_none_iff.2 hrecorded, Schema.defaultValue?,
      get?_ofPuts_iff_lastUnder.2 hlast, Option.join_some]
    rfl

theorem value_eq_iff_resolves {r : Except AccessError ElementValue} :
    (ofHistories typeName declared recorded).value name = r ↔
      Resolves typeName declared recorded name r := by
  refine ⟨fun h => ?_, value_of_resolves⟩
  obtain ⟨r', hr'⟩ := exists_resolves typeName declared recorded name
  rw [← h, value_of_resolves hr']
  exact hr'

theorem value_congr {declared' : List (String × Option ElementValue)}
    {recorded' : List (String × ElementValue)} (hdeclared : AgreeOn name declared declared')
    (hrecorded : AgreeOn name recorded recorded') :
    (ofHistories typeName declared recorded).value name =
      (ofHistories typeName declared' recorded').value name := by
  simp only [ofHistories, value, Schema.declares, Table.contains, Schema.defaultValue?,
    hdeclared.get?_ofPuts, hrecorded.get?_ofPuts]
  rfl

theorem isExplicit_congr {declared' : List (String × Option ElementValue)}
    {recorded' : List (String × ElementValue)} (h : AgreeOn name recorded recorded') :
    (ofHistories typeName declared recorded).isExplicit name =
      (ofHistories typeName declared' recorded').isExplicit name := by
  simp only [ofHistories, isExplicit, Table.contains, h.get?_ofPuts]

end View

/-! ## Main statement -/

/-- **Resolution.**  An annotation on which values were recorded, seen through a schema on
    which elements were declared, answers by the last declaration of a name and the last
    value recorded under it (`Resolves`), and an element is explicit iff a value was
    recorded under its name.  Both answers depend on the operations on that name only:
    histories that agree on the name (`AgreeOn`) give the same.  The names of the schema
    are those declared, each once, where it was declared first. -/
theorem value_of_histories (typeName : String) (declared : List (String × Option ElementValue))
    (scope : Scope) (type : String) (recorded : List (String × ElementValue)) :
    let schema := (Schema.ofTypeName typeName).declareAll declared
    schema.elementNames = (declared.map (·.1)).eraseDups ∧ schema.elementNames.Nodup ∧
    ∃ h, ((scope.start type).setAll type recorded).handle? type = some h ∧ h.typeName = type ∧
      ∀ name,
        (∀ r, (h.view schema).value name = r ↔ Resolves typeName declared recorded name r) ∧
        ((h.view schema).isExplicit name ↔ name ∈ recorded.map (·.1)) ∧
        ∀ declared' scope' type' recorded' h', AgreeOn name declared declared' →
          AgreeOn name recorded recorded' →
          ((Scope.start scope' type').setAll type' recorded').handle? type' = some h' →
          let schema' := (Schema.ofTypeName typeName).declareAll declared'
          (h'.view schema').value name = (h.view schema).value name ∧
          (h'.view schema').isExplicit name = (h.view schema).isExplicit name := by
  intro schema
  have hschema : schema = ⟨typeName, Table.ofPuts declared⟩ :=
    Schema.declareAll_ofTypeName typeName declared
  have hnames : schema.elementNames = (Table.ofPuts declared).keys := by rw [hschema]; rfl
  refine ⟨hnames.trans (Table.keys_ofPuts declared), hnames ▸ Table.nodup_keys_ofPuts declared,
    _, Scope.handle?_setAll_start scope type recorded, rfl, fun name => ?_⟩
  have hview : Handle.view ⟨type, Table.ofPuts recorded⟩ schema =
      .ofHistories typeName declared recorded := by
    rw [hschema]
    rfl
  rw [hview]
  refine ⟨fun r => View.value_eq_iff_resolves, View.isExplicit_ofHistories, ?_⟩
  intro declared' scope' type' recorded' h' hdeclared hrecorded hh' schema'
  obtain rfl := Option.some.inj ((Scope.handle?_setAll_start scope' type' recorded').symm.trans hh')
  have hview' : Handle.view ⟨type', Table.ofPuts recorded'⟩ schema' =
      .ofHistories typeName declared' recorded' :=
    congrArg (View.mk · _) (Schema.declareAll_ofTypeName typeName declared')
  rw [hview']
  exact ⟨(View.value_congr hdeclared hrecorded).symm, (View.isExplicit_congr hrecorded).symm⟩

/-- Declarations of three elements: one loses its default, and one gets a default late. -/
def redeclared : List (String × Option ElementValue) :=
  [("x", some (.int 1)), ("y", none), ("x", none), ("z", some (.int 3)), ("y", some (.int 2))]

/-- The same with two declarations exchanged and one more element. -/
def redeclaredApart : List (String × Option ElementValue) :=
  [("x", some (.int 1)), ("x", none), ("y", none), ("z", some (.int 3)), ("v", none),
    ("y", some (.int 2))]

/-- Values of two elements, one of them recorded twice. -/
def rerecorded : List (String × ElementValue) := [("w", .int 9), ("z", .int 5), ("z", .int 6)]

/-- All four answers, and one of them under other histories. -/
theorem value_of_histories_redeclared :
    let schema := (Schema.ofTypeName "a.A").declareAll redeclared
    let h : Handle := ⟨"a.A", [("w", .int 9), ("z", .int 6)]⟩
    schema.elementNames = ["x", "y", "z"] ∧
    ((Scope.empty.start "a.A").setAll "a.A" rerecorded).handle? "a.A" = some h ∧
    (h.view schema).value "x" = .error (.missing "a.A" "x") ∧
    (h.view schema).value "y" = .ok (.int 2) ∧
    (h.view schema).value "z" = .ok (.int 6) ∧
    (h.view schema).value "w" = .error (.undeclared "a.A" "w") ∧
    (h.view schema).isExplicit "w" ∧
    (h.view ((Schema.ofTypeName "a.A").declareAll redeclaredApart)).value "y" = .ok (.int 2) := by
  intro schema h
  obtain ⟨hnames, -, h', hh', -, hval⟩ :=
    value_of_histories "a.A" redeclared .empty "a.A" rerecorded
  have hh : ((Scope.empty.start "a.A").setAll "a.A" rerecorded).handle? "a.A" = some h := rfl
  obtain rfl := Option.some.inj (hh.symm.trans hh')
  have hy : (h.view schema).value "y" = .ok (.int 2) :=
    ((hval "y").1 _).2 (.default (by decide)
      ⟨[("x", some (.int 1)), ("y", none), ("x", none), ("z", some (.int 3))], [], rfl, nofun⟩)
  have hswap : AgreeOn "y" redeclared
      [("x", some (.int 1)), ("x", none), ("y", none), ("z", some (.int 3)),
        ("y", some (.int 2))] :=
    AgreeOn.swap ("y", none) ("x", none) (by decide) "y" [_] _
  have hagree : AgreeOn "y" redeclared redeclaredApart :=
    hswap.trans (AgreeOn.insert ("v", none) (by decide) [_, _, _, _] _)
  refine ⟨hnames.trans (by decide), hh, ?_, hy, ?_, ?_, (hval "w").2.1.2 (by decide), ?_⟩
  · exact ((hval "x").1 _).2 (.missing (by decide)
      ⟨[("x", some (.int 1)), ("y", none)], [("z", some (.int 3)), ("y", some (.int 2))], rfl,
        by decide⟩)
  · exact ((hval "z").1 _).2 (.recorded (by decide)
      ⟨[("w", .int 9), ("z", .int 5)], [], rfl, nofun⟩)
  · exact ((hval "w").1 _).2 (.undeclared (by decide))
  · exact ((hval "y").2.2 redeclaredApart .empty "a.A" rerecorded h hagree rfl hh).1.trans hy

end ClassCatalog
