/-
  Class names.  The internal form separates packages by `/`
  (`com/acme/Bench`), the qualified form by `.` (`com.acme.Bench`).  A nested
  class keeps its binary name (`Outer$Inner`).

  * `qualified` turns a name of either form into the qualified one;
  * `split` cuts a qualified name at its last `.`; it gives nothing for a
    class of the unnamed package.
-/
namespace ClassCatalog.Name

/-- The qualified form of a name: every `/` becomes `.`. -/
def qualified (name : String) : String :=
  String.ofList (name.toList.map fun c => if c = '/' then '.' else c)

/-- A list cut at its last `.`, which is dropped. -/
def splitLast : List Char → Option (List Char × List Char)
  | [] => none
  | c :: rest =>
    match splitLast rest with
    | some (package, nested) => some (c :: package, nested)
    | none => if c = '.' then some ([], rest) else none

/-- The package and the name within it; `none` without a package. -/
def split (name : String) : Option (String × String) :=
  (splitLast name.toList).map fun (package, nested) => (String.ofList package, String.ofList nested)

end ClassCatalog.Name
