/-
  Visitors: state machines that take the events of a class.

  A visitor may refuse an event; the element values that follow an accepted
  annotation are only recorded.

  * `ClassBuilder.visitor` builds a class;
  * `Recorder.visitor` writes down all that it is given.  It may be told to
    refuse the event with a given number.
-/
import ClassCatalog.Build.Class

namespace ClassCatalog

/-- A state machine over the events of a class. -/
structure Visitor (σ : Type) where
  visit : σ → Event → σ × Except BuildError Unit
  element : σ → String → ElementValue → σ

/-! ## Building -/

namespace ClassBuilder

/-- The visitor that builds a class.  Its state remembers where the element
    values of the annotation opened last are recorded. -/
def visitor : Visitor (ClassBuilder × Sink) where
  visit s e :=
    match s.1.visit e with
    | (b, .ok sink) => ((b, sink), .ok ())
    | (b, .error e) => ((b, .nowhere), .error e)
  element s name value := (s.1.record s.2 name value, s.2)

end ClassBuilder

/-! ## Recording -/

/-- What a visitor is given. -/
inductive Recorded where
  | event (event : Event)
  | element (name : String) (value : ElementValue)
deriving Repr

/-- What was given so far, the latest first, and the number of events that may
    still come before one is refused. -/
structure Recorder where
  recorded : List Recorded := []
  countdown? : Option Nat := none
deriving Repr

namespace Recorder

/-- Takes an event. -/
def visit (r : Recorder) (e : Event) : Recorder × Except BuildError Unit :=
  let recorded := .event e :: r.recorded
  match r.countdown? with
  | none => (⟨recorded, none⟩, .ok ())
  | some 0 => (⟨recorded, none⟩, .error (.missingPackage "rejected"))
  | some (n + 1) => (⟨recorded, some n⟩, .ok ())

/-- The visitor that records. -/
def visitor : Visitor Recorder where
  visit := Recorder.visit
  element r name value := { r with recorded := .element name value :: r.recorded }

/-- All that was recorded, in order. -/
def trace (r : Recorder) : List Recorded := r.recorded.reverse

end Recorder

end ClassCatalog
