import ClassCatalog.Text.Quoted
import ClassCatalog.Access
import ClassCatalog.Name
import ClassCatalog.Table
import ClassCatalog.FloatingPoint.Basic
import ClassCatalog.Element.Equality
import ClassCatalog.Constant
import ClassCatalog.Annotations.View
import ClassCatalog.FieldType.Descriptor
import ClassCatalog.Catalog
import ClassCatalog.ClassFile.Decode
import ClassCatalog.ClassFile.Read
import ClassCatalog.ClassFile.Batch
import ClassCatalog.ClassFile.Description
import ClassCatalog.ClassFile.Encode
import ClassCatalog.Session.Basic
import ClassCatalog.Json.Reader
import ClassCatalog.Json.Element
import ClassCatalog.Json.Settings
import ClassCatalog.Proofs.Name
import ClassCatalog.Proofs.Slots
import ClassCatalog.Proofs.Table
import ClassCatalog.Proofs.Growth
import ClassCatalog.Proofs.Builder
import ClassCatalog.Proofs.Reading
import ClassCatalog.Proofs.Schedule
import ClassCatalog.Proofs.ReadAll
import ClassCatalog.Proofs.Session
import ClassCatalog.Proofs.Events
import ClassCatalog.Proofs.Step
import ClassCatalog.Proofs.Builders
import ClassCatalog.Proofs.Isolation
import ClassCatalog.Proofs.Faults
import ClassCatalog.Proofs.Standing
import ClassCatalog.Proofs.Verdict
import ClassCatalog.Proofs.Replay
import ClassCatalog.Proofs.Construction
import ClassCatalog.Proofs.Failure
import ClassCatalog.Proofs.Latching
import ClassCatalog.Proofs.Attributes
import ClassCatalog.Proofs.FileOrder
import ClassCatalog.Proofs.Encoding
import ClassCatalog.Proofs.RoundTrip
import ClassCatalog.Proofs.Omission
import ClassCatalog.Proofs.Coherence
import ClassCatalog.Proofs.Ownership
import ClassCatalog.Proofs.Assembly
import ClassCatalog.Proofs.Capture
import ClassCatalog.Proofs.Parameters
import ClassCatalog.Proofs.JsonText
import ClassCatalog.Proofs.JsonValue
import ClassCatalog.Proofs.Descriptor
import ClassCatalog.Proofs.Nesting
import ClassCatalog.Proofs.Regrouping
import ClassCatalog.Proofs.Accessors
import ClassCatalog.Proofs.Conversion
import ClassCatalog.Proofs.Resolution
import ClassCatalog.Proofs.Packages
import ClassCatalog.Proofs.Equality
import ClassCatalog.Proofs.Keying
