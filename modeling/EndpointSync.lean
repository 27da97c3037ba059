import EndpointSync.Admin
import EndpointSync.Cluster.HttpRoute
import EndpointSync.Cluster.Ingress
import EndpointSync.Cluster.IngressRoute
import EndpointSync.Cluster.Object
import EndpointSync.Cluster.Request
import EndpointSync.Cluster.Response
import EndpointSync.Cluster.Service
import EndpointSync.Cluster.Shape
import EndpointSync.Cluster.Timestamp
import EndpointSync.CommandLine
import EndpointSync.Config
import EndpointSync.Decimal.Binary64
import EndpointSync.Decimal.Shortest
import EndpointSync.Disk
import EndpointSync.Endpoint
import EndpointSync.Initialization
import EndpointSync.Interval
import EndpointSync.Json
import EndpointSync.Json.Read
import EndpointSync.Kind
import EndpointSync.LogFilter
import EndpointSync.Main
import EndpointSync.Notice
import EndpointSync.Proofs.Attachment
import EndpointSync.Proofs.Attempts
import EndpointSync.Proofs.Blocking
import EndpointSync.Proofs.Bytes
import EndpointSync.Proofs.Calls
import EndpointSync.Proofs.Canonical
import EndpointSync.Proofs.Course
import EndpointSync.Proofs.Entries
import EndpointSync.Proofs.EqualUpdates
import EndpointSync.Proofs.Equivalence
import EndpointSync.Proofs.Expiry
import EndpointSync.Proofs.FailedWrites
import EndpointSync.Proofs.FirstList
import EndpointSync.Proofs.Guarding
import EndpointSync.Proofs.HostClauses
import EndpointSync.Proofs.Hosts
import EndpointSync.Proofs.IntervalText
import EndpointSync.Proofs.Intervals
import EndpointSync.Proofs.LastEvent
import EndpointSync.Proofs.Layers
import EndpointSync.Proofs.Mappings
import EndpointSync.Proofs.Moments
import EndpointSync.Proofs.Namesakes
import EndpointSync.Proofs.NewerRoutes
import EndpointSync.Proofs.OneByOne
import EndpointSync.Proofs.OutputFile
import EndpointSync.Proofs.Overlay
import EndpointSync.Proofs.OverlayLaws
import EndpointSync.Proofs.ParentLookups
import EndpointSync.Proofs.Paths
import EndpointSync.Proofs.Polls
import EndpointSync.Proofs.ReadBack
import EndpointSync.Proofs.Readiness
import EndpointSync.Proofs.Reapplying
import EndpointSync.Proofs.Releases
import EndpointSync.Proofs.Relevance
import EndpointSync.Proofs.Reordering
import EndpointSync.Proofs.Replays
import EndpointSync.Proofs.Requests
import EndpointSync.Proofs.Restart
import EndpointSync.Proofs.ResumeVersion
import EndpointSync.Proofs.RosterOrder
import EndpointSync.Proofs.SameMappings
import EndpointSync.Proofs.SameTemplates
import EndpointSync.Proofs.Sameness
import EndpointSync.Proofs.Settings
import EndpointSync.Proofs.Stacks
import EndpointSync.Proofs.Stages
import EndpointSync.Proofs.Stored
import EndpointSync.Proofs.Targets
import EndpointSync.Proofs.Traces
import EndpointSync.Proofs.WatchLoop
import EndpointSync.Proofs.WellFormed
import EndpointSync.Proofs.Withdrawal
import EndpointSync.Proofs.Writable
import EndpointSync.Roster
import EndpointSync.Rules
import EndpointSync.Rules.HttpRoute
import EndpointSync.Rules.Ingress
import EndpointSync.Rules.IngressRoute
import EndpointSync.Rules.OfKind
import EndpointSync.Rules.Service
import EndpointSync.SocketAddress
import EndpointSync.Store
import EndpointSync.Sync
import EndpointSync.Template
import EndpointSync.Text.Blank
import EndpointSync.Text.Cased
import EndpointSync.Text.Combining
import EndpointSync.Text.Decimals
import EndpointSync.Text.Digits
import EndpointSync.Text.Letters
import EndpointSync.Text.Lowercase
import EndpointSync.Text.Printable
import EndpointSync.Text.Quoted
import EndpointSync.Text.Ranges
import EndpointSync.Verdict
import EndpointSync.Yaml.Chars
import EndpointSync.Yaml.Cursor
import EndpointSync.Yaml.Fault
import EndpointSync.Yaml.Node
import EndpointSync.Yaml.Node.Link
import EndpointSync.Yaml.Node.Read
import EndpointSync.Yaml.Number
import EndpointSync.Yaml.Pen
import EndpointSync.Yaml.Scalar
import EndpointSync.Yaml.Scalar.Style
import EndpointSync.Yaml.Token
import EndpointSync.Yaml.Token.Scalar
import EndpointSync.Yaml.Token.Scan
import EndpointSync.Yaml.Token.Tag
import EndpointSync.Yaml.Tree
import EndpointSync.Yaml.Tree.Resolve
import EndpointSync.Yaml.Tree.Write
