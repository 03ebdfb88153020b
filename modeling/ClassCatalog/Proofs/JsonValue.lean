/-
  Element values and field constants are read back from their JSON texts.

  * `ElementValue.Everywhere`: a property of every node of a value; what is asked is
    that names are apart (`NamesApart`), numbers finite (`FiniteNumber`), and that the
    literals of these very numbers read back (`NumberReadsBack`);
  * `Json.depth`: how many containers are nested in a tree;
  * `read?_toJson`: a value is read from its tree, if that is not nested too deeply;
  * `json_round_trip`: so values and constants survive their texts.
-/
import ClassCatalog.Json.Element
import ClassCatalog.Proofs.JsonText
import ClassCatalog.Proofs.Table

namespace ClassCatalog

/-! ## Numbers -/

namespace JsonNumber

theorem fitting_of_le {n : Nat} (h : n ≤ maxSignificand) : fitting n = (n, 0) := by
  rw [fitting, if_pos h]

/-- An integer of 64 bits is read from its literal. -/
theorem ofDecimal?_ofInt {i : Int} (hlow : Int64.minValue.toInt ≤ i)
    (hhigh : i ≤ Int64.maxValue.toInt) : ofDecimal? (.ofInt i) = some (.integer i) := by
  have hmin : Int64.minValue.toInt = -2 ^ 63 := rfl
  have hmax : Int64.maxValue.toInt = 2 ^ 63 - 1 := rfl
  have hfit : fitting i.natAbs = (i.natAbs, 0) := by
    refine fitting_of_le ?_
    have hs : maxSignificand = 2 ^ 64 - 1 := rfl
    omega
  rw [ofDecimal?, Decimal.ofInt, hfit]
  dsimp only
  rw [if_pos ⟨rfl, rfl, rfl⟩]
  by_cases hi : i < 0
  · rw [decide_eq_true hi, Bool.not_true, if_neg Bool.false_ne_true, if_pos ⟨by omega, by omega⟩]
    congr 2
    omega
  · rw [decide_eq_false hi, Bool.not_false, if_pos rfl]
    congr 2
    omega

end JsonNumber

namespace Json

/-- An integer of a range within 64 bits is read back. -/
theorem integer?_ofInt {low high i : Int} (hlow : low ≤ i) (hhigh : i ≤ high)
    (hmin : Int64.minValue.toInt ≤ low) (hmax : high ≤ Int64.maxValue.toInt) :
    (ofInt i).integer? low high = some i := by
  rw [integer?, ofInt, number?, JsonNumber.ofDecimal?_ofInt (Int.le_trans hmin hlow)
    (Int.le_trans hhigh hmax)]
  exact if_pos ⟨hlow, hhigh⟩

end Json

namespace FloatingPoint

/-- The datum is neither a NaN nor an infinity. -/
def Datum.IsFinite : Datum → Prop
  | finite .. => True
  | _ => False

instance : DecidablePred Datum.IsFinite
  | .finite .. => .isTrue trivial
  | .nan .. | .infinite .. => .isFalse id

/-- What is made of finite data, and of no others, is made of a finite datum. -/
theorem Datum.IsFinite.isSome {α : Type} {literal : Bool → Nat → Int → α} {d : Datum}
    (h : d.IsFinite) :
    Option.isSome (match d with | .finite s m e => some (literal s m e) | _ => none) := by
  cases d with
  | nan | infinite => exact h.elim
  | finite => rfl

end FloatingPoint

namespace Json

/-- A number whose literal reads back is read from its text, if it has a literal. -/
theorem number?_ofLiteral? {α : Type} {read : JsonNumber → α} {literal? : Option Decimal} {x : α}
    (h : literal?.isSome)
    (hr : ∀ d, literal? = some d → (JsonNumber.ofDecimal? d).map read = some x) :
    (ofLiteral? literal?).number?.map read = some x := by
  obtain ⟨d, rfl⟩ := Option.isSome_iff_exists.1 h
  exact hr d rfl

end Json

namespace Single

/-- The literal that is written for the number is read as that number. -/
def ReadsBack (x : Single) : Prop :=
  ∀ d, x.literal? = some d → (JsonNumber.ofDecimal? d).map (·.toSingle) = some x

instance (x : Single) : Decidable x.ReadsBack :=
  inferInstanceAs
    (Decidable (∀ d ∈ x.literal?, (JsonNumber.ofDecimal? d).map (·.toSingle) = some x))

theorem single?_ofLiteral? {x : Single} (hf : x.datum.IsFinite) (hr : x.ReadsBack) :
    (Json.ofLiteral? x.literal?).single? = some x :=
  Json.number?_ofLiteral? hf.isSome hr

end Single

namespace Double

/-- The literal that is written for the number is read as that number. -/
def ReadsBack (x : Double) : Prop :=
  ∀ d, x.literal? = some d → (JsonNumber.ofDecimal? d).map (·.toDouble) = some x

instance (x : Double) : Decidable x.ReadsBack :=
  inferInstanceAs
    (Decidable (∀ d ∈ x.literal?, (JsonNumber.ofDecimal? d).map (·.toDouble) = some x))

theorem double?_ofLiteral? {x : Double} (hf : x.datum.IsFinite) (hr : x.ReadsBack) :
    (Json.ofLiteral? x.literal?).double? = some x :=
  Json.number?_ofLiteral? hf.isSome hr

end Double

/-! ## Tagged payloads -/

namespace Json

theorem untag?_tagged (kinds : List String) (kept : Bool) (depth : Nat) (kind : String)
    (payload : Json) : (tagged kind payload).untag? kinds kept depth = some ⟨kind, payload, kept⟩ :=
  rfl

/-- Members whose names are texts are known by them. -/
theorem named?_map (members : List (String × Json)) :
    named? (members.map fun m => (some m.1, m.2)) = some members := by
  induction members with
  | nil => rfl
  | cons m members ih =>
    rw [named?] at ih ⊢
    rw [List.map_cons, List.mapM_cons, ih]
    rfl

end Json

/-! ## Depth -/

namespace Json

mutual

/-- How many containers are nested in a tree. -/
def depth : Json → Nat
  | array items => depthItems items + 1
  | object members => depthMembers members + 1
  | _ => 0

/-- The depth of the deepest item. -/
def depthItems : List Json → Nat
  | [] => 0
  | j :: items => max j.depth (depthItems items)

/-- The depth of the deepest member. -/
def depthMembers : List (Option String × Json) → Nat
  | [] => 0
  | (_, j) :: members => max j.depth (depthMembers members)

end

theorem depth_tagged (kind : String) (payload : Json) :
    (tagged kind payload).depth = payload.depth + 1 := by
  simp [tagged, ofMembers, ofString, depth, depthMembers]

end Json

namespace Json

theorem textual_ofString (s : String) : (ofString s).Textual := rfl

theorem textual_ofLiteral? (d? : Option Decimal) : (ofLiteral? d?).Textual := by
  cases d? <;> trivial

theorem textual_tagged {kind : String} {payload : Json} (h : payload.Textual) :
    (tagged kind payload).Textual :=
  ⟨rfl, rfl, rfl, h, trivial⟩

end Json

namespace ElementValue

theorem membersToJson_eq (attributes : List (String × ElementValue)) :
    membersToJson attributes =
      (attributes.map fun a => (a.1, a.2.toJson)).map fun m => (some m.1, m.2) := by
  induction attributes with
  | nil => rfl
  | cons a attributes ih => rw [membersToJson, ih, List.map_cons, List.map_cons]

/-! ## Properties of all nodes -/

mutual

/-- A property of a value and of all values in it. -/
def Everywhere (p : ElementValue → Prop) : ElementValue → Prop
  | nested t attributes => p (nested t attributes) ∧ EverywhereAttributes p attributes
  | array items => p (array items) ∧ EverywhereItems p items
  | v => p v

/-- A property of all values in attributes. -/
def EverywhereAttributes (p : ElementValue → Prop) : List (String × ElementValue) → Prop
  | [] => True
  | (_, v) :: attributes => Everywhere p v ∧ EverywhereAttributes p attributes

/-- A property of all values in items. -/
def EverywhereItems (p : ElementValue → Prop) : List ElementValue → Prop
  | [] => True
  | v :: items => Everywhere p v ∧ EverywhereItems p items

end

/-- The attributes of an annotation differ in name. -/
def NamesApart : ElementValue → Prop
  | nested _ attributes => (Table.keys attributes).Nodup
  | _ => True

/-- A floating-point number is finite. -/
def FiniteNumber : ElementValue → Prop
  | float x => x.datum.IsFinite
  | double x => x.datum.IsFinite
  | _ => True

/-- The literal that is written for a floating-point number is read as that number. -/
def NumberReadsBack : ElementValue → Prop
  | float x => x.ReadsBack
  | double x => x.ReadsBack
  | _ => True

/-! ## Texts -/

mutual

/-- All strings that are written are texts. -/
theorem textual_toJson (v : ElementValue) : v.toJson.Textual := by
  match v with
  | nested t attributes =>
    exact Json.textual_tagged ⟨rfl, rfl, rfl, textual_membersToJson attributes, trivial⟩
  | array items => exact Json.textual_tagged (textual_itemsToJson items)
  | float x => exact Json.textual_tagged (Json.textual_ofLiteral? _)
  | double x => exact Json.textual_tagged (Json.textual_ofLiteral? _)
  | enumConstant t c => exact Json.textual_tagged ⟨rfl, rfl, rfl, rfl, trivial⟩
  | string s => exact Json.textual_tagged (Json.textual_ofString s)
  | classLiteral t => exact Json.textual_tagged (Json.textual_ofString t)
  | char c => exact Json.textual_tagged (Json.textual_ofString _)
  | bool _ | byte _ | short _ | int _ | long _ => exact Json.textual_tagged trivial

theorem textual_itemsToJson (items : List ElementValue) :
    Json.TextualItems (itemsToJson items) := by
  match items with
  | [] => trivial
  | v :: items => exact ⟨textual_toJson v, textual_itemsToJson items⟩

theorem textual_membersToJson (attributes : List (String × ElementValue)) :
    Json.TextualMembers (membersToJson attributes) := by
  match attributes with
  | [] => trivial
  | (_, v) :: attributes => exact ⟨rfl, textual_toJson v, textual_membersToJson attributes⟩

end

/-! ## Values -/

theorem read?_tagged (kept : Bool) (inner : Nat) (kind : String) (payload : Json) :
    read? kept (inner + 1) (.tagged kind payload) =
      match inner with
      | 0 => scalarOfPayload? kind payload
      | depth + 1 =>
        if kind = "array" then
          match payload with
          | .array items => (items.mapM (read? kept depth)).map array
          | _ => none
        else if kind = "enum" then enumOfPayload? payload
        else if kind = "annotation" then
          match depth with
          | 0 => none
          | depth + 1 => do
            let (typeName, members) ← annotationParts? payload
            let attributes ← members.mapM fun (name, j) => (read? kept depth j).map (name, ·)
            return nested typeName (Table.ofPuts attributes)
        else scalarOfPayload? kind payload := by
  rw [read?, Json.untag?_tagged]
  rfl

theorem read?_scalar (kept : Bool) (inner : Nat) {kind : String} (payload : Json)
    (h : kind ≠ "array" ∧ kind ≠ "enum" ∧ kind ≠ "annotation") :
    read? kept (inner + 1) (.tagged kind payload) = scalarOfPayload? kind payload := by
  rw [read?_tagged]
  cases inner with
  | zero => rfl
  | succ depth =>
    dsimp only
    rw [if_neg h.1, if_neg h.2.1, if_neg h.2.2]

theorem read?_enum (kept : Bool) (depth : Nat) (t c : String) :
    read? kept (depth + 2) (enumConstant t c).toJson = some (enumConstant t c) := by
  rw [toJson, read?_tagged]
  rfl

theorem read?_array (kept : Bool) (depth : Nat) (items : List Json) :
    read? kept (depth + 2) (.tagged "array" (.array items)) =
      (items.mapM (read? kept depth)).map array := by
  rw [read?_tagged]
  rfl

theorem annotationParts?_ofMembers (t : String) (members : List (String × Json)) :
    annotationParts? (.ofMembers [("type_name", .ofString t),
      ("attributes", .ofMembers members)]) = some (t, members) := by
  have hrecord : Json.record? ["type_name", "attributes"]
      (.ofMembers [("type_name", .ofString t), ("attributes", .ofMembers members)]) =
        some [some (.ofString t), some (.ofMembers members)] := rfl
  rw [annotationParts?, hrecord]
  simp only [Json.ofMembers, Json.ofString, Json.text?, Json.named?_map, Option.bind_eq_bind,
    Option.bind_some]
  rfl

theorem read?_annotation (kept : Bool) (depth : Nat) (t : String)
    (members : List (String × Json)) :
    read? kept (depth + 3) (.tagged "annotation" (.ofMembers [("type_name", .ofString t),
        ("attributes", .ofMembers members)])) =
      (members.mapM fun (m : String × Json) => (read? kept depth m.2).map (m.1, ·)).map
        fun attributes => nested t (Table.ofPuts attributes) := by
  rw [read?_tagged]
  dsimp only
  rw [if_neg (by decide), if_neg (by decide), if_pos rfl, annotationParts?_ofMembers,
    Option.map_eq_bind]
  rfl

/-- The payload of a kind whose payload is no container is read back. -/
theorem read?_toJson_scalar {v : ElementValue} {kind : String} {payload : Json}
    (hv : v.toJson = .tagged kind payload)
    (hk : kind ≠ "array" ∧ kind ≠ "enum" ∧ kind ≠ "annotation")
    (hp : scalarOfPayload? kind payload = some v) {kept : Bool} {depth : Nat}
    (hd : v.toJson.depth ≤ depth) : read? kept depth v.toJson = some v := by
  rw [hv, Json.depth_tagged] at hd
  obtain ⟨inner, rfl⟩ : ∃ n, depth = n + 1 := ⟨depth - 1, by omega⟩
  rw [hv, read?_scalar kept inner payload hk, hp]

mutual

/-- **Values.**  A value is read from its tree, if that is not nested too deeply. -/
theorem read?_toJson (v : ElementValue) (kept : Bool) (depth : Nat) (hn : v.Everywhere NamesApart)
    (hf : v.Everywhere FiniteNumber) (hr : v.Everywhere NumberReadsBack)
    (hd : v.toJson.depth ≤ depth) : read? kept depth v.toJson = some v := by
  match v with
  | bool b => exact read?_toJson_scalar rfl (by decide) rfl hd
  | byte i =>
    refine read?_toJson_scalar rfl (by decide) ?_ hd
    rw [scalarOfPayload?,
      Json.integer?_ofInt i.minValue_le_toInt i.toInt_le (by decide) (by decide),
      Option.map_some, Int8.ofInt_toInt]
  | char c =>
    refine read?_toJson_scalar rfl (by decide) ?_ hd
    rw [scalarOfPayload?, Json.char?, Json.ofString, Json.text?]
    simp
  | short i =>
    refine read?_toJson_scalar rfl (by decide) ?_ hd
    rw [scalarOfPayload?,
      Json.integer?_ofInt i.minValue_le_toInt i.toInt_le (by decide) (by decide),
      Option.map_some, Int16.ofInt_toInt]
  | int i =>
    refine read?_toJson_scalar rfl (by decide) ?_ hd
    rw [scalarOfPayload?,
      Json.integer?_ofInt i.minValue_le_toInt i.toInt_le (by decide) (by decide),
      Option.map_some, Int32.ofInt_toInt]
  | long i =>
    refine read?_toJson_scalar rfl (by decide) ?_ hd
    rw [scalarOfPayload?,
      Json.integer?_ofInt i.minValue_le_toInt i.toInt_le (by decide) (by decide),
      Option.map_some, Int64.ofInt_toInt]
  | float x =>
    refine read?_toJson_scalar rfl (by decide) ?_ hd
    rw [scalarOfPayload?, Single.single?_ofLiteral? hf hr, Option.map_some]
  | double x =>
    refine read?_toJson_scalar rfl (by decide) ?_ hd
    rw [scalarOfPayload?, Double.double?_ofLiteral? hf hr, Option.map_some]
  | string s => exact read?_toJson_scalar rfl (by decide) rfl hd
  | classLiteral t => exact read?_toJson_scalar rfl (by decide) rfl hd
  | enumConstant t c =>
    obtain ⟨inner, rfl⟩ : ∃ n, depth = n + 2 := ⟨depth - 2, by
      have h2 : (enumConstant t c).toJson.depth = 2 := rfl
      omega⟩
    exact read?_enum kept inner t c
  | array items =>
    rw [toJson, Json.depth_tagged, Json.depth] at hd
    obtain ⟨inner, rfl⟩ : ∃ n, depth = n + 2 := ⟨depth - 2, by omega⟩
    rw [toJson, read?_array, read?_items items kept inner hn.2 hf.2 hr.2 (by omega)]
    rfl
  | nested t attributes =>
    have hdepth : (nested t attributes).toJson.depth =
        Json.depthMembers (membersToJson attributes) + 3 := by
      rw [toJson, Json.depth_tagged]
      simp [Json.ofMembers, Json.ofString, Json.depth, Json.depthMembers]
    rw [hdepth] at hd
    obtain ⟨inner, rfl⟩ : ∃ n, depth = n + 3 := ⟨depth - 3, by omega⟩
    rw [toJson, membersToJson_eq]
    rw [show Json.object _ = Json.ofMembers (attributes.map fun a => (a.1, a.2.toJson)) from rfl,
      read?_annotation, read?_members attributes kept inner hn.2 hf.2 hr.2 (by omega),
      Option.map_some, Table.ofPuts_of_nodup hn.1]

theorem read?_items (items : List ElementValue) (kept : Bool) (depth : Nat)
    (hn : EverywhereItems NamesApart items) (hf : EverywhereItems FiniteNumber items)
    (hr : EverywhereItems NumberReadsBack items)
    (hd : Json.depthItems (itemsToJson items) ≤ depth) :
    (itemsToJson items).mapM (read? kept depth) = some items := by
  match items with
  | [] => rfl
  | v :: items =>
    rw [itemsToJson, Json.depthItems] at hd
    rw [itemsToJson, List.mapM_cons, read?_toJson v kept depth hn.1 hf.1 hr.1 (by omega),
      read?_items items kept depth hn.2 hf.2 hr.2 (by omega)]
    rfl

theorem read?_members (attributes : List (String × ElementValue)) (kept : Bool) (depth : Nat)
    (hn : EverywhereAttributes NamesApart attributes)
    (hf : EverywhereAttributes FiniteNumber attributes)
    (hr : EverywhereAttributes NumberReadsBack attributes)
    (hd : Json.depthMembers (membersToJson attributes) ≤ depth) :
    (attributes.map fun a => (a.1, a.2.toJson)).mapM
      (fun (m : String × Json) => (read? kept depth m.2).map (m.1, ·)) = some attributes := by
  match attributes with
  | [] => rfl
  | (name, v) :: attributes =>
    rw [membersToJson, Json.depthMembers] at hd
    rw [List.map_cons, List.mapM_cons, read?_toJson v kept depth hn.1 hf.1 hr.1 (by omega),
      read?_members attributes kept depth hn.2 hf.2 hr.2 (by omega)]
    rfl

end

end ElementValue

/-! ## Constants -/

namespace FieldConstant

/-- A floating-point number is finite. -/
def FiniteNumber : FieldConstant → Prop
  | float x => x.datum.IsFinite
  | double x => x.datum.IsFinite
  | _ => True

/-- The literal that is written for a floating-point number is read as that number. -/
def NumberReadsBack : FieldConstant → Prop
  | float x => x.ReadsBack
  | double x => x.ReadsBack
  | _ => True

/-- All strings that are written are texts. -/
theorem textual_toJson (c : FieldConstant) : c.toJson.Textual := by
  cases c with
  | int _ | long _ => exact Json.textual_tagged trivial
  | float _ | double _ => exact Json.textual_tagged (Json.textual_ofLiteral? _)
  | string s => exact Json.textual_tagged (Json.textual_ofString s)

theorem ofJson?_tagged (kind : String) (payload : Json) :
    ofJson? (.tagged kind payload) = ofPayload? kind payload := by
  rw [ofJson?, Json.untag?_tagged]
  rfl

/-- A constant is read from its tree. -/
theorem ofJson?_toJson {c : FieldConstant} (hf : c.FiniteNumber) (hr : c.NumberReadsBack) :
    ofJson? c.toJson = some c := by
  cases c with
  | int i =>
    rw [toJson, ofJson?_tagged, ofPayload?,
      Json.integer?_ofInt i.minValue_le_toInt i.toInt_le (by decide) (by decide),
      Option.map_some, Int32.ofInt_toInt]
  | long i =>
    rw [toJson, ofJson?_tagged, ofPayload?,
      Json.integer?_ofInt i.minValue_le_toInt i.toInt_le (by decide) (by decide),
      Option.map_some, Int64.ofInt_toInt]
  | float x =>
    rw [toJson, ofJson?_tagged, ofPayload?, Single.single?_ofLiteral? hf hr, Option.map_some]
  | double x =>
    rw [toJson, ofJson?_tagged, ofPayload?, Double.double?_ofLiteral? hf hr, Option.map_some]
  | string s => rfl

end FieldConstant

/-! ## Round trip -/

/-- **Round trip.**  Element values and field constants without infinities and NaNs
    are read back from their texts, the values if their texts nest fewer than 128
    containers.  Assumed of the floating-point numbers that occur: their literals
    read back. -/
theorem json_round_trip :
    (∀ v : ElementValue, v.Everywhere ElementValue.NamesApart →
      v.Everywhere ElementValue.FiniteNumber → v.toJson.depth < 128 →
      v.Everywhere ElementValue.NumberReadsBack →
        (Json.parse v.toJson.render).bind ElementValue.ofJson? = some v) ∧
    ∀ c : FieldConstant, c.FiniteNumber → c.NumberReadsBack →
      (Json.parse c.toJson.render).bind FieldConstant.ofJson? = some c := by
  refine ⟨fun v hn hf hd hr => ?_, fun c hf hr => ?_⟩
  · rw [Json.parse_render v.textual_toJson, Option.bind_some]
    exact v.read?_toJson false Json.maxDepth hn hf hr (Nat.le_of_lt_succ hd)
  · rw [Json.parse_render c.textual_toJson, Option.bind_some]
    exact c.ofJson?_toJson hf hr

/-- An annotation whose attributes have the names of tags, with a negative zero, with
    quotes and controls in its strings, and with arrays in arrays. -/
def ElementValue.awkward : ElementValue :=
  nested "demo.\"Tag\"" [
    ("value", double ⟨0x8000000000000000⟩),
    ("kind", array [float ⟨0x3dcccccd⟩, array [], enumConstant "demo.Level" "value"]),
    ("", nested "" [("kind", string "\\\t\x01é"), ("value", long Int64.minValue)])]

theorem json_round_trip_awkward :
    (Json.parse ElementValue.awkward.toJson.render).bind ElementValue.ofJson? =
      some ElementValue.awkward ∧
    (Json.parse (FieldConstant.double ⟨0x3ff8000000000000⟩).toJson.render).bind
      FieldConstant.ofJson? = some (.double ⟨0x3ff8000000000000⟩) := by
  have hzero : (Double.datum ⟨0x8000000000000000⟩).IsFinite ∧
      Double.ReadsBack ⟨0x8000000000000000⟩ := by decide +kernel
  have htenth : (Single.datum ⟨0x3dcccccd⟩).IsFinite ∧ Single.ReadsBack ⟨0x3dcccccd⟩ := by
    decide +kernel
  have hhalves : (Double.datum ⟨0x3ff8000000000000⟩).IsFinite ∧
      Double.ReadsBack ⟨0x3ff8000000000000⟩ := by decide +kernel
  have hnames : ElementValue.awkward.Everywhere ElementValue.NamesApart := by
    simp [ElementValue.awkward, ElementValue.Everywhere, ElementValue.EverywhereAttributes,
      ElementValue.EverywhereItems, ElementValue.NamesApart, Table.keys]
  have hfinite : ElementValue.awkward.Everywhere ElementValue.FiniteNumber := by
    simp [ElementValue.awkward, ElementValue.Everywhere, ElementValue.EverywhereAttributes,
      ElementValue.EverywhereItems, ElementValue.FiniteNumber, hzero.1, htenth.1]
  have hreads : ElementValue.awkward.Everywhere ElementValue.NumberReadsBack := by
    simp [ElementValue.awkward, ElementValue.Everywhere, ElementValue.EverywhereAttributes,
      ElementValue.EverywhereItems, ElementValue.NumberReadsBack, hzero.2, htenth.2]
  exact ⟨json_round_trip.1 _ hnames hfinite (by decide) hreads,
    json_round_trip.2 _ hhalves.1 hhalves.2⟩

end ClassCatalog
