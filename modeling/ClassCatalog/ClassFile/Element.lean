/-
  Element values of a class file, with their constants looked up.

  Types are given by descriptors in the pool; the descriptor `V` names `void`.
  A `byte` or `short` keeps the low bits of its constant, a `boolean` is
  whether the constant differs from 0, and a `char` whose code is no character
  becomes U+FFFD.

  * `value` interprets an element; a nested annotation looks its elements up
    first, each name before its value, and its type last;
  * `constant?` interprets the constant of a field; a constant of a kind that a
    field cannot have is none.
-/
import ClassCatalog.ClassFile.Basic
import ClassCatalog.Build.Error
import ClassCatalog.Constant
import ClassCatalog.Element.Basic

namespace ClassCatalog.ClassFile

/-- Why the events of a class file end early. -/
inductive ReplayError where
  | lookup (error : LookupError)
  | build (error : BuildError)
deriving DecidableEq, Repr

/-- The text at an index. -/
def Pool.text (p : Pool) (index : Nat) : Except ReplayError String :=
  (p.utf8 index).mapError .lookup

/-- The internal name of the class at an index. -/
def Pool.classText (p : Pool) (index : Nat) : Except ReplayError String :=
  (p.className index).mapError .lookup

/-- The name of the type whose descriptor is at an index. -/
def Pool.typeName (p : Pool) (index : Nat) : Except ReplayError String := do
  let descriptor ← p.text index
  if descriptor = "V" then return "void"
  else (FieldType.fieldTypeName descriptor).mapError fun e => .build (.invalidDescriptor e)

/-- The character with a code, or U+FFFD. -/
def charOfCode (code : Int32) : Char :=
  let n := code.toUInt32.toNat
  if n.isValidChar then Char.ofNat n else '\ufffd'

/-- Interprets a scalar. -/
def scalarValue (p : Pool) (index : Nat) : ScalarKind → Except ReplayError ElementValue
  | .boolean => (p.integer index).mapError .lookup |>.map fun v => .bool (v != 0)
  | .byte => (p.integer index).mapError .lookup |>.map fun v => .byte v.toInt8
  | .char => (p.integer index).mapError .lookup |>.map fun v => .char (charOfCode v)
  | .short => (p.integer index).mapError .lookup |>.map fun v => .short v.toInt16
  | .int => (p.integer index).mapError .lookup |>.map .int
  | .long => (p.long index).mapError .lookup |>.map .long
  | .float => (p.float index).mapError .lookup |>.map .float
  | .double => (p.double index).mapError .lookup |>.map .double
  | .string => (p.text index).map .string
  | .classLiteral => (p.typeName index).map .classLiteral

mutual

/-- Interprets an element. -/
def value (p : Pool) : Element → Except ReplayError ElementValue
  | .scalar kind index => scalarValue p index kind
  | .enumConstant type constant => do
    let type ← p.typeName type
    return .enumConstant type (← p.text constant)
  | .nested type pairs => do
    let attributes ← attributes p [] pairs
    return .nested (← p.typeName type) attributes
  | .array items => do return .array (← values p items)

/-- Interprets elements with their names, onto the attributes read before. -/
def attributes (p : Pool) (read : List (String × ElementValue)) :
    List (Nat × Element) → Except ReplayError (List (String × ElementValue))
  | [] => return read
  | (name, element) :: pairs => do
    let name ← p.text name
    let v ← value p element
    attributes p (Table.put read name v) pairs

/-- Interprets the items of an array. -/
def values (p : Pool) : List Element → Except ReplayError (List ElementValue)
  | [] => return []
  | item :: items => do
    let v ← value p item
    return v :: (← values p items)

end

/-- Interprets the constant of a field. -/
def constant? (p : Pool) (index : Nat) : Except ReplayError (Option FieldConstant) :=
  match p.get? index with
  | some (.integer v) => return some (.int v)
  | some (.long v) => return some (.long v)
  | some (.float v) => return some (.float v)
  | some (.double v) => return some (.double v)
  | some (.string text) => do return some (.string (← p.text text))
  | _ => return none

end ClassCatalog.ClassFile
