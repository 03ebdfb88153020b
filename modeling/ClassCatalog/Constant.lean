/-
  Constants: the values that a field declaration may record for its field.
-/
import ClassCatalog.FloatingPoint.Basic

namespace ClassCatalog

/-- The constant value of a field. -/
inductive FieldConstant where
  | int (value : Int32)
  | long (value : Int64)
  | float (value : Single)
  | double (value : Double)
  | string (value : String)
deriving DecidableEq, Repr, Inhabited

end ClassCatalog
