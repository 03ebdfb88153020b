/-
  Why an event or a finished class is refused.

  The first refusal of a builder is fatal: every later event and the end of
  the build are refused as `aborted`, with the text of the first one.
-/
import ClassCatalog.FieldType.Descriptor

namespace ClassCatalog

/-- The steps of a build that need the class header. -/
inductive BuildStep where
  | annotate | field | method | finish
deriving DecidableEq, Repr

def BuildStep.name : BuildStep → String
  | annotate => "annotation"
  | field => "field"
  | method => "method"
  | finish => "finish"

/-- The refusal of an event or of a finished class. -/
inductive BuildError where
  | duplicateHeader (first second : String)
  | missingHeader (step : BuildStep)
  | missingPackage (className : String)
  | alreadyBuilt (className : String)
  | aborted (cause : String)
  | invalidDescriptor (error : DescriptorError)
deriving DecidableEq, Repr

/-- The text of a refusal. -/
def BuildError.message : BuildError → String
  | duplicateHeader first second => s!"class header visited twice (first {first}, then {second})"
  | missingHeader step => s!"{step.name} event arrived before the class header"
  | missingPackage name => s!"class {name} has no package"
  | alreadyBuilt name => s!"class {name} was already built"
  | aborted cause => s!"class build was aborted by an earlier error: {cause}"
  | invalidDescriptor e => s!"invalid descriptor '{e.descriptor}': {e.fault.message}"

end ClassCatalog
