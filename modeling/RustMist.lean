import RustMist.Library.Interleaving
import RustMist.Library.Json.Value
import RustMist.Library.SortedMap
import RustMist.Construction.Core.Platform
import RustMist.Construction.Core.Target
import RustMist.Library.Replace
import RustMist.Construction.Core.Catalog
import RustMist.Construction.Core.ResponseSchema
import RustMist.Construction.Core.Error
import RustMist.Construction.Core.Grant
import RustMist.Construction.Core.Pagination
import RustMist.Construction.Core.Request
import RustMist.Construction.Server.Platform
import RustMist.Construction.Server.WanWrite
import RustMist.Construction.Server.Dispatch
import RustMist.Construction.Server.ChangeSet
import RustMist.Construction.Server.Plan
import RustMist.Construction.Server.Apply
import RustMist.Construction.SiteDiscovery
import RustMist.Proof.Read.Admission
import RustMist.Proof.Read.Outcome
import RustMist.Proof.Apply.Write
import RustMist.Library.Json.Text
import RustMist.Library.Sha256
import RustMist.Construction.Server.Reference
import RustMist.Construction.Server.Tools
import RustMist.Proof.Plan.Staging
import RustMist.Proof.Calls.Requests
import RustMist.Proof.Calls.Authority
import RustMist.Proof.Apply.Conclusion
import RustMist.Proof.Calls.Validity
import RustMist.Proof.Apply.Evidence
import RustMist.Proof.Apply.StoreSteps
import RustMist.Proof.Apply.Verdict
import RustMist.Proof.Apply.Drift
import RustMist.Proof.Plan.Verb
import RustMist.Proof.Plan.Digest
import RustMist.Proof.Store.Contract
import RustMist.Proof.Store.Lifecycle
import RustMist.Proof.Store.Once
import RustMist.Construction.Core.CatalogDocument
import RustMist.Construction.Core.CursorText
import RustMist.Proof.Catalog.Loading
import RustMist.Proof.Catalog.Document
import RustMist.Library.Json.MergePatch
import RustMist.Proof.Plan.Merge
import RustMist.Proof.Plan.Standard
import RustMist.Construction.Core.RateLimit
import RustMist.Proof.Client.Budget
import RustMist.Construction.Core.Client
import RustMist.Proof.Client.Pages
import RustMist.Proof.Catalog.Reference
import RustMist.Proof.Store.Shelf
import RustMist.Proof.Store.Exits
import RustMist.Proof.Sites.Discovery
import RustMist.Proof.Sites.Honesty
import RustMist.Proof.Sites.Acceptance
import RustMist.Library.Utf8
import RustMist.Proof.Plan.Keys
import RustMist.Proof.Client.Polling
import RustMist.Construction.Core.Execute
import RustMist.Proof.Client.Retries
import RustMist.Proof.Client.Queries
import RustMist.Proof.Read.Cursor
import RustMist.Proof.Read.Tampering
import RustMist.Construction.Server.Similarity
import RustMist.Library.EditDistance
import RustMist.Proof.Read.Distance
import RustMist.Proof.Read.Similarity
import RustMist.Library.Memo
import RustMist.Construction.Core.ValidatorCache
import RustMist.Proof.Read.Caching
import RustMist.Proof.Calls.Targets
import RustMist.Proof.Catalog.Policies
import RustMist.Proof.Catalog.ToolNames
import RustMist.Proof.Catalog.Relaxation
import RustMist.Library.Json.Reorder
import RustMist.Proof.Catalog.Fingerprints
import RustMist.Proof.Catalog.Reordering
import RustMist.Construction.Server.HttpTransport
import RustMist.Proof.Calls.Preflight
import RustMist.Library.UrlSegments
import RustMist.Library.Substitution
import RustMist.Proof.Client.Paths
import RustMist.Proof.Store.Reach
import RustMist.Library.Json.Schema
import RustMist.Proof.Catalog.Widening
import RustMist.Construction.Server.Arguments
import RustMist.Construction.Server.Wan
import RustMist.Construction.Server.NamedTools
import RustMist.Construction.Server.LocalTools
import RustMist.Library.Linking
import RustMist.Construction.Server.Service
import RustMist.Proof.Client.Charges
import RustMist.Proof.Surface.Routes
import RustMist.Proof.Surface.Containment
import RustMist.Proof.Surface.Arguments
import RustMist.Proof.Surface.Bounds
import RustMist.Proof.Surface.Wire
import RustMist.Proof.Surface.Permits
import RustMist.Proof.Surface.Sharing
import RustMist.Library.Progress
import RustMist.Proof.Surface.Progress
import RustMist.Library.Refinement
import RustMist.Proof.Surface.Server
import RustMist.Proof.Surface.Writes
