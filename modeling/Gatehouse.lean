import Gatehouse.Json.Reader
import Gatehouse.Json.Writer
import Gatehouse.Config.Load
import Gatehouse.Store.Trial
import Gatehouse.Http.Query
import Gatehouse.Routing.Registry
import Gatehouse.Selection.Forward
import Gatehouse.Backend.Trial
import Gatehouse.Clock
import Gatehouse.Shutdown
import Gatehouse.Admission.Check
import Gatehouse.Admission.Trial
import Gatehouse.Gateway.Startup
import Gatehouse.Url.Reader
import Gatehouse.Backend.Client
import Gatehouse.Admission.Remote
import Gatehouse.Events.Collector
import Gatehouse.Main
import Gatehouse.Proofs.Rules
import Gatehouse.Proofs.Stores
import Gatehouse.Proofs.SessionKeys
import Gatehouse.Proofs.Generations
import Gatehouse.Proofs.Selections
import Gatehouse.Proofs.Provenance
import Gatehouse.Proofs.Checks
import Gatehouse.Proofs.Windows
import Gatehouse.Proofs.Rush
import Gatehouse.Proofs.Failover
import Gatehouse.Proofs.FirstAnswer
import Gatehouse.Proofs.Bindings
import Gatehouse.Proofs.Affinity
import Gatehouse.Proofs.Overlap
import Gatehouse.Proofs.FirstBinding
import Gatehouse.Proofs.Discarded
import Gatehouse.Proofs.Adoption
import Gatehouse.Proofs.Keywise
import Gatehouse.Proofs.Rulings
import Gatehouse.Proofs.Grounds
import Gatehouse.Proofs.CachedVerdict
import Gatehouse.Proofs.Accounts
import Gatehouse.Proofs.Neighbours
import Gatehouse.Proofs.Reloads
import Gatehouse.Proofs.Answers
import Gatehouse.Proofs.Deliveries
import Gatehouse.Proofs.Wakeups
import Gatehouse.Proofs.Expiry
import Gatehouse.Proofs.StoreCalls
import Gatehouse.Proofs.Footprint
import Gatehouse.Proofs.Outages
import Gatehouse.Proofs.RetryHints
import Gatehouse.Proofs.Tickets
import Gatehouse.Proofs.Lifetimes
import Gatehouse.Proofs.Exits
import Gatehouse.Proofs.Fallbacks
import Gatehouse.Proofs.Audits
import Gatehouse.Proofs.Texts
import Gatehouse.Proofs.Resolution
import Gatehouse.Proofs.Stripping
import Gatehouse.Proofs.Segments
import Gatehouse.Proofs.Echoes
import Gatehouse.Proofs.Paths
import Gatehouse.Proofs.HostNames
import Gatehouse.Proofs.NodeUrls
import Gatehouse.Proofs.Fields
import Gatehouse.Proofs.Cookies
import Gatehouse.Proofs.Hops
import Gatehouse.Proofs.Hosts
import Gatehouse.Proofs.Loading
import Gatehouse.Proofs.WrittenForms
import Gatehouse.Proofs.Destinations
