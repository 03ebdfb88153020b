/-
  Catalogs: the classes of a run by qualified name.

  Every name that was asked for or built has a slot.  A slot is pending until
  a class is published in it, and keeps that class for ever; slots are never
  removed.  Identities may be given in internal or in qualified form.

  Slots are numbered as they are registered.  Whoever holds a slot holds its
  number: the header of a class registers a slot, and the class is published
  later in the slot with that number, not in one looked up again.

  Two classes built from the same events are still two classes, so an entry
  carries a serial number of the run that tells it from all others.

  * `register` makes sure that a name has a slot and gives its number;
  * `number?`, `slot?`, `contains` and `resolve?` look an identity up, `slotAt?`
    a number;
  * `publish` fills a slot, or refuses a class whose slot is full;
  * `built` lists the published classes by qualified name.
-/
import ClassCatalog.Build.Class

namespace ClassCatalog

/-- A published class. -/
structure Entry where
  serial : Nat
  model : ClassModel
deriving Repr, Inhabited

/-- The place of a class: `none` while it is pending. -/
structure Slot where
  qualifiedName : String
  published? : Option Entry
deriving Repr, Inhabited

/-- The slots of a run in order of registration. -/
structure Catalog where
  slots : List Slot
deriving Repr, Inhabited

namespace Slot

/-- A slot without a class. -/
def pending (qualifiedName : String) : Slot := ⟨qualifiedName, none⟩

def isBuilt (s : Slot) : Bool := s.published?.isSome

end Slot

namespace Catalog

/-- No slots. -/
def empty : Catalog := ⟨[]⟩

/-- The number of the slot of an identity. -/
def number? (c : Catalog) (identity : String) : Option Nat :=
  c.slots.findIdx? (·.qualifiedName == Name.qualified identity)

/-- The slot with a number. -/
def slotAt? (c : Catalog) (number : Nat) : Option Slot := c.slots[number]?

/-- The slot of an identity. -/
def slot? (c : Catalog) (identity : String) : Option Slot :=
  (c.number? identity).bind c.slotAt?

/-- Makes sure that an identity has a slot, and gives its number. -/
def register (c : Catalog) (identity : String) : Catalog × Nat :=
  match c.number? identity with
  | some number => (c, number)
  | none => (⟨c.slots ++ [.pending (Name.qualified identity)]⟩, c.slots.length)

/-- An identity has a slot. -/
def contains (c : Catalog) (identity : String) : Bool := (c.slot? identity).isSome

/-- The published class of an identity. -/
def resolve? (c : Catalog) (identity : String) : Option Entry :=
  (c.slot? identity).bind (·.published?)

/-- Puts a class into the slot with a number. -/
def fill (c : Catalog) (number : Nat) (e : Entry) : Catalog :=
  ⟨c.slots.modify number fun s => { s with published? := some e }⟩

/-- Publishes a class in the slot that its header registered; a class without
    a header has no slot. -/
def publish (c : Catalog) (slot? : Option Nat) (e : Entry) : Except BuildError Catalog :=
  match slot? with
  | none => .error (.missingHeader .finish)
  | some number =>
    match c.slotAt? number with
    | some ⟨name, some _⟩ => .error (.alreadyBuilt name)
    | _ => .ok (c.fill number e)

/-- The published classes in order of their qualified names. -/
def built (c : Catalog) : List Entry :=
  (c.slots.filterMap (·.published?)).mergeSort fun a b =>
    decide (a.model.qualifiedName ≤ b.model.qualifiedName)

/-- The number of slots. -/
def size (c : Catalog) : Nat := c.slots.length

/-- What the delivery of an event to a builder leaves in its catalog, and the
    slot that the builder holds afterwards: an accepted header registers the
    class. -/
def afterEvent {α : Type} (c : Catalog) (slot? : Option Nat) (e : Event) (r : Except BuildError α) :
    Catalog × Option Nat :=
  match e, r with
  | .header h, .ok _ =>
    let (c, number) := c.register h.name
    (c, some number)
  | _, _ => (c, slot?)

/-- Ends the build of a class and publishes it in the slot that its builder
    holds. -/
def finish (c : Catalog) (slot? : Option Nat) (serial : Nat) (b : ClassBuilder) :
    Except BuildError (Catalog × Entry) := do
  let model ← b.build
  let c ← c.publish slot? ⟨serial, model⟩
  return (c, ⟨serial, model⟩)

end Catalog

end ClassCatalog
