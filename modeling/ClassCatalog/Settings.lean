/-
  Settings of an extraction run and of its log.
-/
namespace ClassCatalog

/-- What an extraction run takes from a class file. -/
structure Settings where
  /-- Refuse classes of the unnamed package. -/
  requirePackage : Bool := true
  /-- Deliver the annotations that are invisible at run time as well. -/
  includeInvisible : Bool := true
  /-- Deliver synthetic members. -/
  includeSynthetic : Bool := true
deriving DecidableEq, Repr, Inhabited

/-- Where a run writes its log, and how much.  A log without a directory of
    its own goes to the default one. -/
structure LogSettings where
  component : String := "classmeta"
  directory? : Option String := none
  /-- Write to standard error as well. -/
  stderr : Bool := false
  filter : String := "info"
deriving DecidableEq, Repr, Inhabited

end ClassCatalog
