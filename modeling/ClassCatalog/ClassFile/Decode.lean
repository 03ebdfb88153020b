/-
  Decoding class files.

  A reader takes bytes from the front of a list and gives a value and the rest;
  numbers are big-endian.  The whole file is decoded before anything is looked
  at; bytes after its end are ignored.

  * `Malformed` says what is wrong with a file, and `Malformed.message` how it
    is told;
  * `checkFieldType` is the check of the descriptor of a field;
  * `file` reads a class file.
-/
import ClassCatalog.ClassFile.Basic
import ClassCatalog.ClassFile.ModifiedUtf8

namespace ClassCatalog.ClassFile

/-- What is wrong with a file. -/
inductive Malformed where
  | endOfInput
  | badMagic (magic : Nat)
  | badVersion (major minor : Nat)
  | emptyPool
  | badTag (tag : Nat)
  | badReferenceKind (kind : Nat)
  | badText (fault : TextFault)
  | lookup (error : LookupError)
  /-- A descriptor too short to name a class. -/
  | shortDescriptor
  | badFieldType (descriptor : String)
  | badFieldTypeCode (code : Char)
  | badAttributeName (index : Nat)
  | badAttributeLength (length : Nat)
  | badElementTag (tag : Nat)
deriving DecidableEq, Repr

/-- The text of a fault. -/
def Malformed.message : Malformed → String
  | endOfInput => "IoError(\"failed to fill whole buffer\")"
  | badMagic m => s!"InvalidMagicNumber({m})"
  | badVersion major minor => s!"InvalidVersion \x7b major: {major}, minor: {minor} \x7d"
  | emptyPool => "IoError(\"Invalid constant pool count\")"
  | badTag t => s!"InvalidConstantTag({t})"
  | badReferenceKind k => s!"InvalidReferenceKind({k})"
  | badText fault => s!"FromUtf8Error({Text.quote fault.message})"
  | lookup e => e.message
  | shortDescriptor => "IoError(\"Invalid descriptor length\")"
  | badFieldType d => s!"InvalidFieldTypeDescriptor({Text.quote d})"
  | badFieldTypeCode c => s!"InvalidFieldTypeCode({Text.quoteChar c})"
  | badAttributeName i => s!"InvalidAttributeNameIndex({i})"
  | badAttributeLength n => s!"InvalidAttributeLength({n})"
  | badElementTag t => s!"InvalidAnnotationElementTag({t})"

/-- Reads a value from the front of the bytes. -/
abbrev Reader (α : Type) := StateT (List UInt8) (Except Malformed) α

namespace Reader

/-! ## Bytes and numbers -/

/-- Reads one byte. -/
def byte : Reader UInt8 := do
  match ← get with
  | [] => throw .endOfInput
  | b :: rest => set rest; return b

/-- Reads `n` values. -/
def times {α : Type} (read : Reader α) : Nat → Reader (List α)
  | 0 => return []
  | n + 1 => do
    let a ← read
    let as ← times read n
    return a :: as

/-- Reads `n` bytes. -/
def bytes (n : Nat) : Reader (List UInt8) := times byte n

/-- The number that bytes denote, the most significant first. -/
def bigEndian (bs : List UInt8) : Nat := bs.foldl (fun n b => n * 256 + b.toNat) 0

/-- Reads a number of one byte. -/
def u1 : Reader Nat := do return (← byte).toNat

/-- Reads a number of two bytes. -/
def u2 : Reader Nat := do return bigEndian (← bytes 2)

/-- Reads a number of four bytes. -/
def u4 : Reader Nat := do return bigEndian (← bytes 4)

/-- Reads a number of eight bytes. -/
def u8 : Reader Nat := do return bigEndian (← bytes 8)

/-- Reads a count of two bytes and as many values. -/
def counted {α : Type} (read : Reader α) : Reader (List α) := do times read (← u2)

/-- Looks a constant up while decoding. -/
def liftLookup {α : Type} : Except LookupError α → Reader α
  | .ok a => return a
  | .error e => throw (.lookup e)

/-! ## The constant pool -/

/-- Reads a text: a length of two bytes and the bytes. -/
def text : Reader String := do
  match ModifiedUtf8.decode (← bytes (← u2)) with
  | .ok s => return s
  | .error fault => throw (.badText fault)

/-- Reads a constant after its tag. -/
def constantBody (tag : Nat) : Reader PoolConstant := do
  match tag with
  | 1 => return .utf8 (← text)
  | 3 => return .integer (.ofInt (← u4))
  | 4 => return .float ⟨.ofNat (← u4)⟩
  | 5 => return .long (.ofInt (← u8))
  | 6 => return .double ⟨.ofNat (← u8)⟩
  | 7 => return .classRef (← u2)
  | 8 => return .string (← u2)
  | 9 | 10 | 11 | 12 | 17 | 18 =>
    let _ ← u2
    let _ ← u2
    return .other tag
  | 15 =>
    let kind ← u1
    if kind < 1 ∨ 9 < kind then throw (.badReferenceKind kind)
    let _ ← u2
    return .other tag
  | 16 | 19 | 20 =>
    let _ ← u2
    return .other tag
  | _ => throw (.badTag tag)

/-- Reads a constant. -/
def constant : Reader PoolConstant := do constantBody (← u1)

/-- Reads constants until at least the given number of places is filled. -/
def places : Nat → Reader (List (Option PoolConstant))
  | 0 => return []
  | n + 1 => do
    let c ← constant
    if c.isWide then
      match n with
      | 0 => return [some c, none]
      | n + 1 => return some c :: none :: (← places n)
    else return some c :: (← places n)

/-- Reads the pool; its count is one more than the number of places. -/
def pool : Reader Pool := do
  let count ← u2
  if count = 0 then throw .emptyPool
  return ⟨← places (count - 1)⟩

/-! ## Annotations -/

/-- The kind of scalar with a tag. -/
def scalarKind? : Nat → Option ScalarKind
  | 0x42 => some .byte
  | 0x43 => some .char
  | 0x44 => some .double
  | 0x46 => some .float
  | 0x49 => some .int
  | 0x4a => some .long
  | 0x53 => some .short
  | 0x5a => some .boolean
  | 0x73 => some .string
  | 0x63 => some .classLiteral
  | _ => none

/-- Reads elements with the indices of their names. -/
def pairs (element : Reader Element) : Reader (List (Nat × Element)) :=
  counted do
    let name ← u2
    return (name, ← element)

/-- Reads an element.  Each level of nesting takes at least one byte, so `fuel`
    may be the number of bytes. -/
def element : Nat → Reader Element
  | 0 => throw .endOfInput
  | fuel + 1 => do
    let tag ← u1
    match scalarKind? tag with
    | some kind => return .scalar kind (← u2)
    | none =>
      match tag with
      | 0x65 =>
        let typeName ← u2
        return .enumConstant typeName (← u2)
      | 0x40 =>
        let type ← u2
        return .nested type (← pairs (element fuel))
      | 0x5b => return .array (← counted (element fuel))
      | _ => throw (.badElementTag tag)

/-- Reads an annotation. -/
def annotationItem : Reader AnnotationItem := do
  let type ← u2
  let fuel := (← get).length
  return ⟨type, ← pairs (element (fuel + 1))⟩

/-! ## Attributes -/

/-- Reads an attribute of which only the index it consists of is kept. -/
def indexAttribute (length : Nat) (make : Nat → Attribute) : Reader Attribute := do
  if length ≠ 2 then throw (.badAttributeLength length)
  return make (← u2)

/-- Reads an attribute after its name and its length. -/
def attributeBody (name : String) (length : Nat) : Reader Attribute := do
  match name with
  | "ConstantValue" => indexAttribute length .constantValue
  | "Signature" => indexAttribute length .signature
  | "SourceFile" | "NestHost" => indexAttribute length fun _ => .other name
  | "Synthetic" | "Deprecated" =>
    if length ≠ 0 then throw (.badAttributeLength length)
    return .other name
  | "Exceptions" => return .exceptions (← counted u2)
  | "RuntimeVisibleAnnotations" => return .annotations true (← counted annotationItem)
  | "RuntimeInvisibleAnnotations" => return .annotations false (← counted annotationItem)
  | "RuntimeVisibleParameterAnnotations" =>
    return .parameterAnnotations true (← times (counted annotationItem) (← u1))
  | "RuntimeInvisibleParameterAnnotations" =>
    return .parameterAnnotations false (← times (counted annotationItem) (← u1))
  | _ =>
    let _ ← bytes length
    return .other name

/-- Reads an attribute. -/
def namedAttribute (p : Pool) : Reader Attribute := do
  let index ← u2
  match p.utf8 index with
  | .error _ => throw (.badAttributeName index)
  | .ok name => attributeBody name (← u4)

/-! ## Fields and methods -/

/-- The check of the descriptor of a field.  The name of an object type is what
    stands between the first character and the last; nothing is asked of the
    characters after a base type. -/
def checkFieldType : List Char → Except Malformed Unit
  | [] => .error (.badFieldTypeCode '\x00')
  | 'L' :: rest =>
    let whole := String.ofList ('L' :: rest)
    if whole.utf8ByteSize < 2 then .error .shortDescriptor
    else if rest.take (whole.utf8ByteSize - 2) = [] ∨ ('L' :: rest).getLast? ≠ some ';' then
      .error (.badFieldType whole)
    else .ok ()
  | '[' :: rest => checkFieldType rest
  | c :: _ =>
    if c ∈ ['B', 'C', 'D', 'F', 'I', 'J', 'S', 'Z'] then .ok () else .error (.badFieldTypeCode c)

/-- The access bits that a class file may set on a class, a field, a method. -/
def classMask : AccessFlags := ⟨0xf631⟩
def fieldMask : AccessFlags := ⟨0x50df⟩
def methodMask : AccessFlags := ⟨0x1dff⟩

/-- Reads access flags; bits outside the mask are dropped. -/
def access (mask : AccessFlags) : Reader AccessFlags := do
  return AccessFlags.mask ⟨.ofNat (← u2)⟩ mask

/-- Reads a field.  Its descriptor is checked before its attributes are read. -/
def field (p : Pool) : Reader Member := do
  let access ← access fieldMask
  let name ← u2
  let descriptor ← u2
  let text ← liftLookup (p.utf8 descriptor)
  match checkFieldType text.toList with
  | .error e => throw e
  | .ok () => return ⟨access, name, descriptor, ← counted (namedAttribute p)⟩

/-- Reads a method. -/
def method (p : Pool) : Reader Member := do
  let access ← access methodMask
  let name ← u2
  let descriptor ← u2
  return ⟨access, name, descriptor, ← counted (namedAttribute p)⟩

/-! ## Files -/

/-- The number that every class file begins with. -/
def magicNumber : Nat := 0xcafebabe

/-- A version that can be read: from 45 to 69; from 56 on the minor version is
    0 or the mark of a preview. -/
def isKnownVersion (major minor : Nat) : Bool :=
  45 ≤ major && major ≤ 69 && (major < 56 || minor == 0 || minor == 65535)

/-- Reads a class file. -/
def file : Reader File := do
  let magic ← u4
  if magic ≠ magicNumber then throw (.badMagic magic)
  let minor ← u2
  let major ← u2
  if !isKnownVersion major minor then throw (.badVersion major minor)
  let pool ← pool
  let access ← access classMask
  let thisClass ← u2
  let superClass ← u2
  let interfaces ← counted u2
  let fields ← counted (field pool)
  let methods ← counted (method pool)
  let attributes ← counted (namedAttribute pool)
  return { pool, access, thisClass, superClass, interfaces, fields, methods, attributes }

end Reader

/-- The class file that bytes encode. -/
def decode (bytes : List UInt8) : Except Malformed File := (Reader.file.run bytes).map (·.1)

end ClassCatalog.ClassFile
