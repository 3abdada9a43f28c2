import Refuge.Alerts
import Refuge.AllOrNothing
import Refuge.Authorisation
import Refuge.CText
import Refuge.Capacities
import Refuge.Cascade
import Refuge.CjsonHandler
import Refuge.ClientLoop
import Refuge.ClientRequest
import Refuge.Commands
import Refuge.Counters
import Refuge.Dialogue
import Refuge.Document
import Refuge.Foundation.Binary64
import Refuge.Foundation.Buffer
import Refuge.Foundation.Components
import Refuge.Foundation.Framing
import Refuge.Foundation.History
import Refuge.Foundation.LastWrite
import Refuge.Foundation.Loop
import Refuge.Foundation.Members
import Refuge.Foundation.Merge
import Refuge.Foundation.Owning
import Refuge.Foundation.Run
import Refuge.Json.Layout
import Refuge.Json.Library
import Refuge.Json.Path
import Refuge.Json.Reference
import Refuge.Json.Tree
import Refuge.Memory
import Refuge.Memory.Leaks
import Refuge.Memory.Requests
import Refuge.Memory.Updates
import Refuge.MergeStrings
import Refuge.Network
import Refuge.Network.Chosen
import Refuge.Network.Datagrams
import Refuge.Network.Orders
import Refuge.Network.Progress
import Refuge.Network.Views
import Refuge.Network.Wire
import Refuge.Notices
import Refuge.Numerals
import Refuge.Override
import Refuge.Pointers
import Refuge.Polling
import Refuge.Processes
import Refuge.Prompts
import Refuge.Replies
import Refuge.RequestCapacity
import Refuge.Sections
import Refuge.Server
import Refuge.Service
import Refuge.SharedFile
import Refuge.State
import Refuge.StateFile
import Refuge.Stdin
import Refuge.Stream
import Refuge.SupplyRuns
import Refuge.Updates
