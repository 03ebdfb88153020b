/-
  Reading a batch of class files side by side into one catalog.

  The reads share nothing but the catalog, and each touches it twice: when its
  header is accepted, to register the class, and at its end, to publish it.
  Between the two, other reads may take any number of steps.  A schedule says
  whose step is next.

  * `Reading` is a read under way, `Reading.step` its next step;
  * `Batch.run` takes the steps of a schedule;
  * `readAll` takes the steps of a schedule and then all that are left over, so
    that every read ends.
-/
import ClassCatalog.ClassFile.Read

namespace ClassCatalog.ClassFile

/-- A read under way. -/
inductive Reading where
  | fresh (outcome : Outcome)
  /-- The header is through, and the class holds its slot. -/
  | begun (outcome : Outcome) (slot? : Option Nat)
  | ended (result : Except ReadError Entry)

namespace Reading

/-- The next step of a read. -/
def step (serial : Nat) (c : Catalog) : Reading → Catalog × Reading
  | fresh o =>
    let (c, slot?) := o.register c
    (c, begun o slot?)
  | begun o slot? =>
    let (c, r) := o.publish serial slot? c
    (c, ended r)
  | ended r => (c, ended r)

/-- The result of a read that has ended. -/
def result? : Reading → Option (Except ReadError Entry)
  | ended r => some r
  | _ => none

end Reading

/-- The reads of a batch, in its order, and the catalog that they share. -/
structure Batch where
  catalog : Catalog
  readings : List Reading

namespace Batch

/-- The reads of a batch before their first steps. -/
def ofFiles (s : Settings) (c : Catalog) (files : List (List UInt8)) : Batch :=
  ⟨c, files.map fun bytes => .fresh (outcomeOf s bytes)⟩

/-- The next step of the read with index `i`; the serial numbers count up along
    the batch. -/
def step (serial : Nat) (b : Batch) (i : Nat) : Batch :=
  match b.readings[i]? with
  | none => b
  | some r =>
    let (c, r) := r.step (serial + i) b.catalog
    ⟨c, b.readings.set i r⟩

/-- Steps of the reads with the given indices, one after the other. -/
def run (serial : Nat) (b : Batch) (schedule : List Nat) : Batch := schedule.foldl (step serial) b

/-- The schedule of `n` reads one after the other. -/
def inOrder (n : Nat) : List Nat := (List.range n).flatMap fun i => [i, i]

end Batch

/-- Reads class files side by side: the steps of the schedule, and then in order
    of the batch those that it leaves over.  There is a result for each file. -/
def readAll (s : Settings) (serial : Nat) (c : Catalog) (files : List (List UInt8))
    (schedule : List Nat) : Catalog × List (Except ReadError Entry) :=
  let b := (Batch.ofFiles s c files).run serial (schedule ++ Batch.inOrder files.length)
  (b.catalog, b.readings.filterMap (·.result?))

end ClassCatalog.ClassFile
