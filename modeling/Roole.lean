import Roole.Core.EventBus
import Roole.Core.LogLines
import Roole.Core.Ports
import Roole.Core.PrometheusRendering
import Roole.Core.ServiceRegistry
import Roole.Core.TrailingComments
import Roole.Dag.AllocFailures
import Roole.Dag.Execution
import Roole.Dag.Topological
import Roole.Gossip.AckUpdates
import Roole.Gossip.Events
import Roole.Gossip.Fanout
import Roole.Gossip.Incarnations
import Roole.Gossip.Joining
import Roole.Gossip.Leaving
import Roole.Gossip.PendingAcks
import Roole.Gossip.Piggyback
import Roole.Gossip.QueuedUpdates
import Roole.Gossip.Refutation
import Roole.Gossip.SelfAuthority
import Roole.Gossip.Statuses
import Roole.Gossip.SuspectTimer
import Roole.Gossip.Truncation
import Roole.Gossip.ViewStore
import Roole.Node.BootstrapSection
import Roole.Node.Connections
import Roole.Node.ExecutorMetrics
import Roole.Node.FailedSubmissions
import Roole.Node.RegisterTool
import Roole.Node.RoundRobin
import Roole.Node.SyncAnswers
import Roole.Node.SyncCatalog
import Roole.Rpc.ReadEvents
import Roole.System.Conservation
import Roole.System.CrashDetection
