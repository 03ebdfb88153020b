/-
  Element values and field constants in JSON.

  A value is written as an object with its kind and its payload, in this order:
  `kind` is the lower-case name of the kind, `value` the payload.  A number
  without decimal text (a NaN, an infinity) is written `null`.

  The reader takes the two members in either order, or an array of the two.  A
  payload that comes before its kind must be strict, for it is kept until the
  kind is known.  As a member, a kind may also be written as an object with the
  kind as its only name and `null` as its value.  Within a payload that was kept,
  an empty object will do for the `null`, and in an array a kind may also be
  written as its number, counted from 0.

  * `ElementValue.toJson` and `FieldConstant.toJson` write;
  * `ElementValue.ofJson?` and `FieldConstant.ofJson?` read.
-/
import ClassCatalog.Constant
import ClassCatalog.Element.Basic
import ClassCatalog.Json.Typed

namespace ClassCatalog

namespace Json

/-- A number by its literal, `null` without one. -/
def ofLiteral? : Option Decimal → Json
  | some d => number d
  | none => null

/-- A payload with its kind. -/
def tagged (kind : String) (payload : Json) : Json :=
  ofMembers [("kind", ofString kind), ("value", payload)]

/-- Reads a kind that is a member; `kept` says whether it is part of a payload
    that was kept. -/
def memberKind? (kept : Bool) (depth : Nat) : Json → Option String
  | string text? => text?
  | object [(name?, null)] => if depth = 0 then none else name?
  | object [(name?, object [])] => if kept then name? else none
  | _ => none

/-- Reads a kind that is an item, one of the given kinds if it is a number. -/
def itemKind? (kept : Bool) (kinds : List String) : Json → Option String
  | string text? => text?
  | j => do
    let i ← j.integer? 0 (UInt64.size - 1)
    if kept then kinds[i.toNat]? else none

/-- A kind and its payload. -/
structure Tagged where
  kind : String
  payload : Json
  /-- The payload was kept, or is part of one that was. -/
  kept : Bool

/-- Finds a kind, one of the given ones, and its payload; `depth` counts the
    containers that may be entered within the value. -/
def untag? (kinds : List String) (kept : Bool) (depth : Nat) : Json → Option Tagged
  | array [kind, payload] => (itemKind? kept kinds kind).map fun k => ⟨k, payload, kept⟩
  | object members => do
    let members ← named? members
    match members.filter fun m => m.1 == "kind" || m.1 == "value" with
    | [("kind", kind), ("value", payload)] =>
      (memberKind? kept depth kind).map fun k => ⟨k, payload, kept⟩
    | [("value", payload), ("kind", kind)] =>
      if payload.strict depth then
        (memberKind? kept depth kind).map fun k => ⟨k, payload, true⟩
      else none
    | _ => none
  | _ => none

end Json

/-! ## Field constants -/

namespace FieldConstant

/-- Writes a constant. -/
def toJson : FieldConstant → Json
  | int v => .tagged "int" (.ofInt v.toInt)
  | long v => .tagged "long" (.ofInt v.toInt)
  | float v => .tagged "float" (.ofLiteral? v.literal?)
  | double v => .tagged "double" (.ofLiteral? v.literal?)
  | string s => .tagged "string" (.ofString s)

/-- The kinds of constants. -/
def kinds : List String := ["int", "long", "float", "double", "string"]

/-- Reads the payload of a kind. -/
def ofPayload? (kind : String) (payload : Json) : Option FieldConstant :=
  match kind with
  | "int" => (payload.integer? Int32.minValue.toInt Int32.maxValue.toInt).map fun i => int (.ofInt i)
  | "long" => (payload.integer? Int64.minValue.toInt Int64.maxValue.toInt).map fun i => long (.ofInt i)
  | "float" => payload.single?.map float
  | "double" => payload.double?.map double
  | "string" => payload.text?.map string
  | _ => none

/-- Reads a constant. -/
def ofJson? (j : Json) : Option FieldConstant := do
  let t ← j.untag? kinds false (Json.maxDepth - 1)
  ofPayload? t.kind t.payload

end FieldConstant

/-! ## Element values -/

namespace ElementValue

mutual

/-- Writes a value. -/
def toJson : ElementValue → Json
  | bool b => .tagged "bool" (.bool b)
  | byte v => .tagged "byte" (.ofInt v.toInt)
  | char c => .tagged "char" (.ofString (String.singleton c))
  | short v => .tagged "short" (.ofInt v.toInt)
  | int v => .tagged "int" (.ofInt v.toInt)
  | long v => .tagged "long" (.ofInt v.toInt)
  | float v => .tagged "float" (.ofLiteral? v.literal?)
  | double v => .tagged "double" (.ofLiteral? v.literal?)
  | string s => .tagged "string" (.ofString s)
  | classLiteral t => .tagged "class" (.ofString t)
  | enumConstant t c =>
    .tagged "enum" (.ofMembers [("type_name", .ofString t), ("constant", .ofString c)])
  | nested t attributes =>
    .tagged "annotation"
      (.ofMembers [("type_name", .ofString t), ("attributes", .object (membersToJson attributes))])
  | array items => .tagged "array" (.array (itemsToJson items))

/-- Writes attributes. -/
def membersToJson : List (String × ElementValue) → List (Option String × Json)
  | [] => []
  | (name, v) :: rest => (some name, v.toJson) :: membersToJson rest

/-- Writes items. -/
def itemsToJson : List ElementValue → List Json
  | [] => []
  | v :: rest => v.toJson :: itemsToJson rest

end

/-- The kinds of values. -/
def kinds : List String :=
  ["bool", "byte", "char", "short", "int", "long", "float", "double", "string", "class", "enum",
   "annotation", "array"]

/-- Reads the payload of a kind whose payload is no container. -/
def scalarOfPayload? (kind : String) (payload : Json) : Option ElementValue :=
  match kind with
  | "bool" => payload.flag?.map bool
  | "byte" => (payload.integer? Int8.minValue.toInt Int8.maxValue.toInt).map fun i => byte (.ofInt i)
  | "char" => payload.char?.map char
  | "short" => (payload.integer? Int16.minValue.toInt Int16.maxValue.toInt).map fun i => short (.ofInt i)
  | "int" => (payload.integer? Int32.minValue.toInt Int32.maxValue.toInt).map fun i => int (.ofInt i)
  | "long" => (payload.integer? Int64.minValue.toInt Int64.maxValue.toInt).map fun i => long (.ofInt i)
  | "float" => payload.single?.map float
  | "double" => payload.double?.map double
  | "string" => payload.text?.map string
  | "class" => payload.text?.map classLiteral
  | _ => none

/-- Reads the payload of an enum constant: an object. -/
def enumOfPayload? : Json → Option ElementValue
  | .object members => do
    match ← Json.fields? ["type_name", "constant"] (← Json.named? members) with
    | [some t, some c] => return enumConstant (← t.text?) (← c.text?)
    | _ => none
  | _ => none

/-- Finds the type name and the attributes of a nested annotation: an object or
    an array of the two. -/
def annotationParts? (payload : Json) : Option (String × List (String × Json)) := do
  match ← payload.record? ["type_name", "attributes"] with
  | [some t, some (.object members)] => return (← t.text?, ← Json.named? members)
  | _ => none

/-- Reads a value in which `depth` containers may be nested; `kept` says whether
    it is part of a payload that was kept. -/
def read? (kept : Bool) (depth : Nat) (j : Json) : Option ElementValue :=
  match depth with
  | 0 => none
  | inner + 1 => do
    let t ← j.untag? kinds kept inner
    match inner with
    | 0 => scalarOfPayload? t.kind t.payload
    | depth + 1 =>
      if t.kind = "array" then
        match t.payload with
        | .array items => (items.mapM (read? t.kept depth)).map array
        | _ => none
      else if t.kind = "enum" then enumOfPayload? t.payload
      else if t.kind = "annotation" then
        match depth with
        | 0 => none
        | depth + 1 => do
          let (typeName, members) ← annotationParts? t.payload
          let attributes ← members.mapM fun (name, j) => (read? t.kept depth j).map (name, ·)
          return nested typeName (Table.ofPuts attributes)
      else scalarOfPayload? t.kind t.payload

/-- Reads a value. -/
def ofJson? (j : Json) : Option ElementValue := read? false Json.maxDepth j

end ElementValue

end ClassCatalog
