import InteractiveMobs.Catalog.History
import InteractiveMobs.Dispatch.Server
import InteractiveMobs.Main
import InteractiveMobs.Proofs.Catalog.Lossless
import InteractiveMobs.Proofs.Dispatch.Destinations
import InteractiveMobs.Proofs.Dispatch.Labels
import InteractiveMobs.Proofs.Dispatch.MessageFailure
import InteractiveMobs.Proofs.Dispatch.Tenure
import InteractiveMobs.Proofs.Dispatch.Wording
import InteractiveMobs.Proofs.Storage.Publication
import InteractiveMobs.Proofs.Storage.Redirection
import InteractiveMobs.Proofs.Template.Containment
import InteractiveMobs.Proofs.Template.Printing
import InteractiveMobs.Proofs.Template.Filling
import InteractiveMobs.Proofs.Dispatch.OneShot
import InteractiveMobs.Proofs.Catalog.KeyOrder
import InteractiveMobs.Proofs.Catalog.OnDemand
import InteractiveMobs.Proofs.Catalog.DefaultDocument
import InteractiveMobs.Proofs.Storage.Completion
import InteractiveMobs.Proofs.Storage.Cell
import InteractiveMobs.Proofs.Formatting.Visible
import InteractiveMobs.Proofs.Template.Visibility
import InteractiveMobs.Proofs.Dispatch.Reporting
import InteractiveMobs.Proofs.Dispatch.Vetoes
import InteractiveMobs.Proofs.Dispatch.Footprint
import InteractiveMobs.Proofs.Dispatch.Independence
import InteractiveMobs.Proofs.Template.Continuation
import InteractiveMobs.Proofs.Formatting.Translation
import InteractiveMobs.Proofs.Formatting.Restoring
import InteractiveMobs.Proofs.CommandLine.Inspection
import InteractiveMobs.Proofs.CommandLine.Suspicion
import InteractiveMobs.Proofs.Catalog.Layering
import InteractiveMobs.Proofs.Template.Serialization
