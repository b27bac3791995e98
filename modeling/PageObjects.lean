import PageObjects.Main
import PageObjects.PageClass.Record
import PageObjects.Proofs.Batch.Contents
import PageObjects.Proofs.Batch.Identity
import PageObjects.Proofs.Batch.Interleaving
import PageObjects.Proofs.Compose.Inferred
import PageObjects.Proofs.Compose.Inherited
import PageObjects.Proofs.Compose.Scope
import PageObjects.Proofs.Java.Imports
import PageObjects.Service.Http
import PageObjects.Proofs.Compose.Failure
import PageObjects.Proofs.References
import PageObjects.Proofs.Compose.Lookup
import PageObjects.Proofs.Compose.Parameters
import PageObjects.Proofs.Compose.Closure
import PageObjects.Proofs.Compose.Fields
import PageObjects.Proofs.Compose.Appended
import PageObjects.Proofs.BeforeLoad
import PageObjects.Proofs.Compose.Extension
import PageObjects.Proofs.Elements
import PageObjects.Proofs.Guarded.Compilation
import PageObjects.Proofs.Document.WellFormed
import PageObjects.Proofs.MemberNames
import PageObjects.Proofs.Document.Location
import PageObjects.Proofs.Document.Report
import PageObjects.Proofs.Document.Correction
import PageObjects.Proofs.Document.Shapes
import PageObjects.Proofs.Document.Dump
import PageObjects.Proofs.Compose.Depth
import PageObjects.Proofs.Record
import PageObjects.Proofs.ErrorPlace
import PageObjects.Proofs.Compose.Capture
import PageObjects.Proofs.Identifiers
import PageObjects.Proofs.Java.Literals
import PageObjects.Proofs.Java.Markers
import PageObjects.Proofs.Java.Comments
import PageObjects.Proofs.Java.Nested
import PageObjects.Proofs.Java.InterfaceImports
import PageObjects.Proofs.MethodLookup
import PageObjects.Proofs.Catalog.Capabilities
import PageObjects.Proofs.Catalog.UiAutomator
