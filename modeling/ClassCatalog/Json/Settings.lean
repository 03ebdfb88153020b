/-
  Access flags and settings in JSON.

  Access flags are a number.  Settings are an object, or an array of the
  members in order; a member that is missing has its default.
-/
import ClassCatalog.Access
import ClassCatalog.Json.Reader
import ClassCatalog.Json.Typed
import ClassCatalog.Settings
import ClassCatalog.Text.Utf8

namespace ClassCatalog

/-- Writes access flags. -/
def AccessFlags.toJson (a : AccessFlags) : Json := .ofInt a.bits.toNat

/-- Reads access flags. -/
def AccessFlags.ofJson? (j : Json) : Option AccessFlags :=
  (j.integer? 0 (UInt16.size - 1)).map fun i => ⟨.ofNat i.toNat⟩

/-- Reads a member that may be missing. -/
def Json.memberOr {α : Type} (default : α) (read : Json → Option α) : Option Json → Option α
  | none => some default
  | some j => read j

/-- Writes the settings of a run. -/
def Settings.toJson (s : Settings) : Json :=
  .ofMembers [("require_package", .bool s.requirePackage),
    ("include_invisible_annotations", .bool s.includeInvisible),
    ("include_synthetic_members", .bool s.includeSynthetic)]

/-- Reads the settings of a run. -/
def Settings.ofJson? (j : Json) : Option Settings := do
  let standard : Settings := {}
  match ← j.record? ["require_package", "include_invisible_annotations",
      "include_synthetic_members"] with
  | [package, invisible, synthetic] =>
    return {
      requirePackage := ← Json.memberOr standard.requirePackage Json.flag? package
      includeInvisible := ← Json.memberOr standard.includeInvisible Json.flag? invisible
      includeSynthetic := ← Json.memberOr standard.includeSynthetic Json.flag? synthetic }
  | _ => none

/-- Reads the settings of a log. -/
def LogSettings.ofJson? (j : Json) : Option LogSettings := do
  let standard : LogSettings := {}
  match ← j.record? ["component", "directory", "stderr", "filter"] with
  | [component, directory, stderr, filter] =>
    return {
      component := ← Json.memberOr standard.component Json.text? component
      directory? := ← Json.memberOr none (fun d => d.text?.map some) directory
      stderr := ← Json.memberOr standard.stderr Json.flag? stderr
      filter := ← Json.memberOr standard.filter Json.text? filter }
  | _ => none

/-- Why settings could not be loaded. -/
inductive SettingsError where
  /-- There is no such file, or it is no text. -/
  | unreadable
  | badJson
deriving DecidableEq, Repr

/-- Reads the settings of a run from a text. -/
def Settings.ofText (s : String) : Except SettingsError Settings :=
  match (Json.parse s).bind Settings.ofJson? with
  | some settings => .ok settings
  | none => .error .badJson

/-- Reads the settings of a run from the contents of a file, if there is one. -/
def Settings.ofFile : Option (List UInt8) → Except SettingsError Settings
  | none => .error .unreadable
  | some bytes =>
    match Text.Utf8.decode bytes with
    | .ok s => Settings.ofText s
    | .error _ => .error .unreadable

end ClassCatalog
