import FollowGraph.Application
import FollowGraph.Client
import FollowGraph.Json.Reader
import FollowGraph.Json.Writer
import FollowGraph.Proofs.Application.Life
import FollowGraph.Proofs.Cypher.Confined
import FollowGraph.Proofs.Cypher.Search
import FollowGraph.Proofs.Graph.Distance
import FollowGraph.Proofs.Graph.Listing
import FollowGraph.Proofs.Graph.Matches
import FollowGraph.Proofs.Graph.Texts
import FollowGraph.Proofs.Http.Client
import FollowGraph.Proofs.Http.Objections
import FollowGraph.Proofs.Http.Sendable
import FollowGraph.Proofs.Http.Surface
import FollowGraph.Proofs.Node.Properties
import FollowGraph.Proofs.Number.Quotient
import FollowGraph.Proofs.Number.Underflow
import FollowGraph.Proofs.Pair.Commuting
import FollowGraph.Proofs.Pair.Conduct
import FollowGraph.Proofs.Pair.Degraded
import FollowGraph.Proofs.Pair.Exclusive
import FollowGraph.Proofs.Pair.Granted
import FollowGraph.Proofs.Pair.Machine
import FollowGraph.Proofs.Pair.Permitted
import FollowGraph.Proofs.Pair.Race
import FollowGraph.Proofs.Pair.Refinement
import FollowGraph.Proofs.Pair.Undo
import FollowGraph.Proofs.Program.Commits
import FollowGraph.Proofs.Program.Contract
import FollowGraph.Proofs.Program.Footprint
import FollowGraph.Proofs.Program.Moves
import FollowGraph.Proofs.Program.Noted
import FollowGraph.Proofs.Service.Accounts
import FollowGraph.Proofs.Service.Annotation
import FollowGraph.Proofs.Service.Announcements
import FollowGraph.Proofs.Service.Audible
import FollowGraph.Proofs.Service.Batches
import FollowGraph.Proofs.Service.Boundary
import FollowGraph.Proofs.Service.Contracts
import FollowGraph.Proofs.Service.Deduplication
import FollowGraph.Proofs.Service.Flaky
import FollowGraph.Proofs.Service.Forgetting
import FollowGraph.Proofs.Service.HalfDone
import FollowGraph.Proofs.Service.Interchange
import FollowGraph.Proofs.Service.Isolation
import FollowGraph.Proofs.Service.Neighbors
import FollowGraph.Proofs.Service.Paging
import FollowGraph.Proofs.Service.Recorded
import FollowGraph.Proofs.Service.Requests
import FollowGraph.Proofs.Service.Run
import FollowGraph.Proofs.Service.Seen
import FollowGraph.Proofs.Service.SharedInterests
import FollowGraph.Proofs.Service.Tags
import FollowGraph.Proofs.Service.Tiers
import FollowGraph.Proofs.Service.Unsuccessful
import FollowGraph.Proofs.Service.Untouched
import FollowGraph.Proofs.Service.Window
import FollowGraph.Proofs.Store.Cache
import FollowGraph.Proofs.Store.Silent
import FollowGraph.Proofs.Value.Rendering
import FollowGraph.Store.Fault
