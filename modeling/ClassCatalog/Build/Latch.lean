/-
  Latched states: a state under construction and the text of the first refusal.

  `deliver` hands an event to the state.  As long as nothing was refused the
  event decides; a refused event leaves the state as it was and its text is
  latched.  From then on every event is refused as aborted by that text.
  `complete` ends the construction in the same way.
-/
import ClassCatalog.Build.Error

namespace ClassCatalog

/-- A state and, once an event was refused, the text of that refusal. -/
structure Latched (σ : Type) where
  state : σ
  failure? : Option String := none
deriving Repr

namespace Latched

variable {σ α : Type}

/-- Hands an event to the state. -/
def deliver (b : Latched σ) (event : σ → Except BuildError (σ × α)) :
    Latched σ × Except BuildError α :=
  match b.failure? with
  | some cause => (b, .error (.aborted cause))
  | none =>
    match event b.state with
    | .ok (s, a) => ({ b with state := s }, .ok a)
    | .error e => ({ b with failure? := some e.message }, .error e)

/-- Ends the construction. -/
def complete (b : Latched σ) (result : σ → Except BuildError α) : Except BuildError α :=
  match b.failure? with
  | some cause => .error (.aborted cause)
  | none => result b.state

/-- Changes the state without an event. -/
def mapState (b : Latched σ) (f : σ → σ) : Latched σ := { b with state := f b.state }

end Latched

end ClassCatalog
