/-
  Reading class files into a catalog.

  Reading decodes the file, delivers its events to a new builder and publishes
  the class.  An accepted header registers the class in the catalog whatever
  comes after it; a file that fails publishes nothing.

  * `buildOf` is what the file alone decides: the identity under which the
    class is registered, if its header is accepted, and the model or the error;
  * `read` applies that to a catalog: it registers the class, and later it
    publishes it.
-/
import ClassCatalog.ClassFile.Decode
import ClassCatalog.ClassFile.Replay
import ClassCatalog.Catalog

namespace ClassCatalog.ClassFile

/-- Why a class file could not be read. -/
inductive ReadError where
  | malformed (fault : Malformed)
  | lookup (error : LookupError)
  | build (error : BuildError)
deriving DecidableEq, Repr

/-- An error of the events as an error of the reading. -/
def ReadError.ofReplay : ReplayError → ReadError
  | .lookup e => .lookup e
  | .build e => .build e

/-- The text of an error. -/
def ReadError.message : ReadError → String
  | malformed fault => s!"class file decoding failed: Failed to parse class: {fault.message}"
  | lookup e => s!"class file decoding failed: {e.message}"
  | build e => e.message

/-- What a decoded file decides by itself. -/
structure Outcome where
  /-- The identity to register: that of the header, once it was accepted. -/
  identity? : Option String
  result : Except ReadError ClassModel

/-- Builds the class of a decoded file. -/
def buildOf (s : Settings) (f : File) : Outcome :=
  let (r, b, _) := accept ClassBuilder.visitor s f (.ofSettings s, .nowhere)
  { identity? := b.name?
    result := do
      r.mapError .ofReplay
      b.build.mapError .build }

/-- Builds the class of a file given by its bytes. -/
def outcomeOf (s : Settings) (bytes : List UInt8) : Outcome :=
  match decode bytes with
  | .error fault => ⟨none, .error (.malformed fault)⟩
  | .ok f => buildOf s f

/-- Registers the identity of an outcome, and gives the number of its slot. -/
def Outcome.register (o : Outcome) (c : Catalog) : Catalog × Option Nat :=
  match o.identity? with
  | some name =>
    let (c, number) := c.register name
    (c, some number)
  | none => (c, none)

/-- Publishes the class of an outcome in the slot that it holds. -/
def Outcome.publish (o : Outcome) (serial : Nat) (slot? : Option Nat) (c : Catalog) :
    Catalog × Except ReadError Entry :=
  match o.result with
  | .error e => (c, .error e)
  | .ok model =>
    match c.publish slot? ⟨serial, model⟩ with
    | .error e => (c, .error (.build e))
    | .ok c => (c, .ok ⟨serial, model⟩)

/-- Reads a class file into a catalog. -/
def read (s : Settings) (serial : Nat) (c : Catalog) (bytes : List UInt8) :
    Catalog × Except ReadError Entry :=
  let o := outcomeOf s bytes
  let (c, slot?) := o.register c
  o.publish serial slot? c

end ClassCatalog.ClassFile
