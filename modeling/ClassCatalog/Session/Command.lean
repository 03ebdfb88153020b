/-
  Commands to a session and its replies.

  A request names the catalog that its command works on.  Builders, slots and
  classes are kept under identifiers of their own; a builder keeps the catalog
  that it was made for, whatever catalog later requests name.
-/
import ClassCatalog.ClassFile.Batch

namespace ClassCatalog

open ClassFile (ReadError)

/-- A part of a class that carries annotations. -/
inductive Target where
  | onClass
  /-- The class and what it inherits. -/
  | inherited
  | onField (index : Nat)
  | onMethod (index : Nat)
  | onParameter (method index : Nat)
deriving DecidableEq, Repr

/-- What a session is asked to do. -/
inductive Command where
  /-- Gives the catalog a further name. -/
  | nameCatalog (name : String)
  /-- Registers an identity and keeps its slot under `id`. -/
  | register (identity id : String)
  /-- The kept slot as it is now. -/
  | keptSlot (id : String)
  | slot (identity : String)
  /-- Whether two identities have the same slot. -/
  | sameSlot (first second : String)
  | contains (identity : String)
  | resolve (identity : String)
  | describe
  /-- The catalog that all sessions share. -/
  | describeShared
  | newBuilder (id : String) (settings : Settings)
  | dropBuilder (id : String)
  | header (id : String) (header : ClassHeader)
  | annotate (id : String) (event : AnnotationEvent)
  | field (id : String) (decl : FieldDecl) (annotations : List AnnotationEvent)
  | method (id : String) (decl : MethodDecl) (annotations : List (MethodTarget × AnnotationEvent))
  | builderState (id : String)
  /-- Ends a build; the class is kept under `id`. -/
  | finish (id : String)
  /-- Reads a class file; the class is kept under `id`. -/
  | read (id : String) (bytes : List UInt8) (settings : Settings)
  /-- Reads class files side by side; the schedule names, step by step, the file
      whose read goes on. -/
  | readAll (batch : List (List UInt8)) (settings : Settings) (schedule : List Nat := [])
  /-- Whether the catalog resolves the name of the kept class to that class. -/
  | isPublished (id : String)
  | declaringClass (id : String) (target : Target)
  | isAnnotated (id : String) (target : Target) (typeName : String)
  | view (id : String) (target : Target) (schema : Schema)
deriving Repr

/-- A command with the name of the catalog that it works on. -/
structure Request where
  catalog : String
  command : Command
deriving Repr

/-- What a session answers. -/
inductive Reply where
  | done
  | flag (value : Bool)
  | slot (slot : Slot)
  | slot? (slot? : Option Slot)
  | same? (same? : Option Bool)
  | name? (qualifiedName? : Option String)
  | catalog (size : Nat) (built : List String)
  /-- The size of the shared catalog, and that it is always the same one. -/
  | shared (size : Nat) (same : Bool)
  | event (result : Except BuildError Unit)
  /-- The results of the annotations of an accepted member. -/
  | member (result : Except BuildError (List (Except BuildError Unit)))
  | builder (name? failure? : Option String)
  | finished (result : Except BuildError Entry)
  | read (result : Except ReadError Entry)
  | readAll (results : List (Except ReadError Entry))
  | view? (view? : Option View)
  /-- The command speaks of something that the session does not have. -/
  | unknown

end ClassCatalog
