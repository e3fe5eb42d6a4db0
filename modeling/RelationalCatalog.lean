import RelationalCatalog.Main
import RelationalCatalog.Proofs.Json.Token
import RelationalCatalog.Proofs.Json.Reader
import RelationalCatalog.Proofs.Instant.Reading
import RelationalCatalog.Proofs.Json.Record
import RelationalCatalog.Proofs.Rest.Element
import RelationalCatalog.Proofs.Rest.Envelope
import RelationalCatalog.Proofs.Types.Assignability
import RelationalCatalog.Proofs.Bean.Conversion
import RelationalCatalog.Proofs.Catalog.Listing
import RelationalCatalog.Proofs.Text.Percent
import RelationalCatalog.Proofs.Rest.Request
import RelationalCatalog.Proofs.Rest.Agreement
import RelationalCatalog.Proofs.Catalog.Interleaving
import RelationalCatalog.Proofs.Catalog.Walk
import RelationalCatalog.Proofs.Rest.Answer
import RelationalCatalog.Proofs.Rest.Access
import RelationalCatalog.Proofs.Rest.Coherence
import RelationalCatalog.Proofs.Catalog.Log
import RelationalCatalog.Proofs.Entity.Wire
import RelationalCatalog.Proofs.Attribute.Mapping
import RelationalCatalog.Proofs.Bean.Faithfulness
import RelationalCatalog.Proofs.Catalog.Rearrangement
import RelationalCatalog.Proofs.Json.Members
import RelationalCatalog.Proofs.Rest.Decoding
import RelationalCatalog.Proofs.Bean.SortOrder
import RelationalCatalog.Proofs.Attribute.Date
import RelationalCatalog.Proofs.Server.Overrides
import RelationalCatalog.Proofs.Entity.Property
import RelationalCatalog.Proofs.Server.Modules
import RelationalCatalog.Proofs.Command.Agreement
import RelationalCatalog.Proofs.Entity.Building
import RelationalCatalog.Proofs.Attribute.Linearity
