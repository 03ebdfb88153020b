/-
  Access flags of classes, fields and methods: a word of 16 bits.

  A bit means different things on different declarations (`0x0020` is
  `synchronized` on a method only), so the named flags carry their most common
  meaning and each model picks those that apply to it.  Some bits therefore
  have two names.

  * `contains`: the two words have a bit in common;
  * `display`: four hexadecimal digits after `0x`.
-/
import ClassCatalog.Text.Quoted

namespace ClassCatalog

/-- The access word of a declaration. -/
structure AccessFlags where
  bits : UInt16
deriving DecidableEq, Repr, Inhabited

namespace AccessFlags

/-- No flag at all. -/
def none : AccessFlags := ⟨0⟩

def publicFlag : AccessFlags := ⟨0x0001⟩
def privateFlag : AccessFlags := ⟨0x0002⟩
def protectedFlag : AccessFlags := ⟨0x0004⟩
def staticFlag : AccessFlags := ⟨0x0008⟩
def finalFlag : AccessFlags := ⟨0x0010⟩
def synchronizedFlag : AccessFlags := ⟨0x0020⟩
def volatileFlag : AccessFlags := ⟨0x0040⟩
def bridgeFlag : AccessFlags := ⟨0x0040⟩
def transientFlag : AccessFlags := ⟨0x0080⟩
def varargsFlag : AccessFlags := ⟨0x0080⟩
def nativeFlag : AccessFlags := ⟨0x0100⟩
def interfaceFlag : AccessFlags := ⟨0x0200⟩
def abstractFlag : AccessFlags := ⟨0x0400⟩
def strictFlag : AccessFlags := ⟨0x0800⟩
def syntheticFlag : AccessFlags := ⟨0x1000⟩
def annotationFlag : AccessFlags := ⟨0x2000⟩
def enumFlag : AccessFlags := ⟨0x4000⟩

/-- The named flags, each with its conventional name. -/
def named : List (String × AccessFlags) :=
  [("PUBLIC", publicFlag), ("PRIVATE", privateFlag), ("PROTECTED", protectedFlag), ("STATIC", staticFlag),
   ("FINAL", finalFlag), ("SYNCHRONIZED", synchronizedFlag), ("VOLATILE", volatileFlag),
   ("BRIDGE", bridgeFlag), ("TRANSIENT", transientFlag), ("VARARGS", varargsFlag), ("NATIVE", nativeFlag),
   ("INTERFACE", interfaceFlag), ("ABSTRACT", abstractFlag), ("STRICT", strictFlag),
   ("SYNTHETIC", syntheticFlag), ("ANNOTATION", annotationFlag), ("ENUM", enumFlag)]

/-- The two words have a bit in common. -/
def contains (a b : AccessFlags) : Bool := a.bits &&& b.bits != 0

/-- All flags of either word. -/
def union (a b : AccessFlags) : AccessFlags := ⟨a.bits ||| b.bits⟩

/-- The flags of `a` that `b` has as well. -/
def mask (a b : AccessFlags) : AccessFlags := ⟨a.bits &&& b.bits⟩

/-- The word as `0x` and four lower-case hexadecimal digits. -/
def display (a : AccessFlags) : String :=
  String.ofList ('0' :: 'x' :: (Text.hexDigits a.bits.toNat).leftpad 4 '0')

end AccessFlags

end ClassCatalog
