/-
  Reading descriptors.

  A method descriptor is `(`, the types of the parameters, `)` and the return
  type, where `V` stands for no value.  The reader is lenient: the class name
  of an object type may be empty and may run to the end of the text, the
  closing parenthesis may be followed by anything once a return type was read.

  * `readType` reads one field type and gives the rest of the text;
  * `methodTypes` gives the names of the return type and of the parameters;
  * `fieldTypeName` gives the name of a single field type.  It reads the text
    as the parameters of a method without a value and asks for exactly one.
-/
import ClassCatalog.FieldType.Basic
import ClassCatalog.Text.Quoted

namespace ClassCatalog

/-- What is wrong with a descriptor. -/
inductive DescriptorFault where
  /-- The text ends too early or does not begin with a parenthesis. -/
  | malformed (descriptor : String)
  /-- No type begins with this character. -/
  | unknownCode (code : Char)
  | notFieldDescriptor
  | notSingleType
deriving DecidableEq, Repr

/-- The text of a fault. -/
def DescriptorFault.message : DescriptorFault → String
  | malformed d => s!"InvalidMethodDescriptor({Text.quote d})"
  | unknownCode c => s!"InvalidBaseTypeCode({Text.quoteChar c})"
  | notFieldDescriptor => "not a field descriptor"
  | notSingleType => "not a single field type"

/-- A descriptor that could not be read, and why. -/
structure DescriptorError where
  descriptor : String
  fault : DescriptorFault
deriving DecidableEq, Repr

namespace FieldType

/-- Reads one field type; `whole` is the text that a fault speaks of. -/
def readType (whole : String) : List Char → Except DescriptorFault (FieldType × List Char)
  | [] => .error (.malformed whole)
  | '[' :: rest =>
    match readType whole rest with
    | .ok (t, rest) => .ok (.array t, rest)
    | .error fault => .error fault
  | 'L' :: rest =>
    .ok (.object (String.ofList (rest.takeWhile (· ≠ ';'))), (rest.dropWhile (· ≠ ';')).drop 1)
  | c :: rest =>
    match BaseType.ofCode? c with
    | some b => .ok (.base b, rest)
    | none => .error (.unknownCode c)

/-- Reads field types up to the closing parenthesis or the end of the text.
    Each type takes at least one character, so `fuel` may be the length of the
    text. -/
def readParameters (whole : String) :
    Nat → List Char → Except DescriptorFault (List FieldType × List Char)
  | _, [] => .ok ([], [])
  | _, ')' :: rest => .ok ([], rest)
  | 0, _ :: _ => .error (.malformed whole)
  | fuel + 1, c :: rest =>
    match readType whole (c :: rest) with
    | .error fault => .error fault
    | .ok (t, rest) =>
      match readParameters whole fuel rest with
      | .ok (ts, rest) => .ok (t :: ts, rest)
      | .error fault => .error fault

/-- Reads the return type: `none` for `V`.  What follows it is not looked at. -/
def readReturn (whole : String) : List Char → Except DescriptorFault (Option FieldType)
  | 'V' :: _ => .ok none
  | cs =>
    match readType whole cs with
    | .ok (t, _) => .ok (some t)
    | .error fault => .error fault

/-- The parameter types and the return type of a method descriptor. -/
def readMethod (whole : String) : Except DescriptorFault (List FieldType × Option FieldType) :=
  match whole.toList with
  | '(' :: rest =>
    match readParameters whole rest.length rest with
    | .error fault => .error fault
    | .ok (ts, rest) =>
      match readReturn whole rest with
      | .ok r => .ok (ts, r)
      | .error fault => .error fault
  | _ => .error (.malformed whole)

/-- The name of a return type. -/
def returnName : Option FieldType → String
  | none => "void"
  | some t => t.name

/-- The names of the return type and of the parameter types of a method. -/
def methodTypes (descriptor : String) : Except DescriptorError (String × List String) :=
  match readMethod descriptor with
  | .ok (ts, r) => .ok (returnName r, ts.map FieldType.name)
  | .error fault => .error ⟨descriptor, fault⟩

/-- The name of the one field type that a descriptor consists of. -/
def fieldTypeName (descriptor : String) : Except DescriptorError String :=
  match methodTypes ("(" ++ descriptor ++ ")V") with
  | .error _ => .error ⟨descriptor, .notFieldDescriptor⟩
  | .ok (_, [name]) => .ok name
  | .ok _ => .error ⟨descriptor, .notSingleType⟩

end FieldType

end ClassCatalog
