import NetRack.Command.Basic
import NetRack.Command.Decode
import NetRack.Command.Exec
import NetRack.Command.Global
import NetRack.Command.Host
import NetRack.Command.Interface
import NetRack.Command.Outcome
import NetRack.Command.Submode
import NetRack.Console
import NetRack.Device.AccessList
import NetRack.Device.Basic
import NetRack.Device.Interface
import NetRack.Device.Route
import NetRack.Device.Routing
import NetRack.Device.Services
import NetRack.Device.VlanSet
import NetRack.Explanation
import NetRack.Fault
import NetRack.Grammar.Modes
import NetRack.Grammar.Node
import NetRack.Grammar.Verb
import NetRack.InterfaceName
import NetRack.Ipv4.Address
import NetRack.Ipv4.Network
import NetRack.Json.Codec
import NetRack.Json.Lenient
import NetRack.Json.Parser
import NetRack.Json.Printer
import NetRack.Json.Value
import NetRack.Mode
import NetRack.Order
import NetRack.Proofs.AccessList.Clause
import NetRack.Proofs.AccessList.Decision
import NetRack.Proofs.AccessList.Entering
import NetRack.Proofs.AccessList.Entry
import NetRack.Proofs.AccessList.Lists
import NetRack.Proofs.AccessList.Printed
import NetRack.Proofs.AccessList.Reentry
import NetRack.Proofs.AccessList.Wording
import NetRack.Proofs.AccessVlan
import NetRack.Proofs.Address
import NetRack.Proofs.Addressing
import NetRack.Proofs.BriefKeys
import NetRack.Proofs.Broadcast
import NetRack.Proofs.Command.Bounds
import NetRack.Proofs.Command.Decode
import NetRack.Proofs.Command.Exec
import NetRack.Proofs.Command.Global
import NetRack.Proofs.Command.Interface
import NetRack.Proofs.Command.Reports
import NetRack.Proofs.Command.Submode
import NetRack.Proofs.Command.Understood
import NetRack.Proofs.Commute
import NetRack.Proofs.Console.Line
import NetRack.Proofs.Console.Marker
import NetRack.Proofs.Console.Payload
import NetRack.Proofs.Console.Seat
import NetRack.Proofs.Console.Settle
import NetRack.Proofs.Consoles
import NetRack.Proofs.Device
import NetRack.Proofs.Devices
import NetRack.Proofs.Dictated
import NetRack.Proofs.DoLine
import NetRack.Proofs.Domain
import NetRack.Proofs.Edit
import NetRack.Proofs.Elsewhere
import NetRack.Proofs.Explained
import NetRack.Proofs.Failures
import NetRack.Proofs.Features
import NetRack.Proofs.Frame.Device
import NetRack.Proofs.Frame.Global
import NetRack.Proofs.Frame.Interface
import NetRack.Proofs.Frame.Line
import NetRack.Proofs.Frame.Submode
import NetRack.Proofs.Gateway
import NetRack.Proofs.Grammar.Merge
import NetRack.Proofs.Grammar.Needs
import NetRack.Proofs.Grammar.Ways
import NetRack.Proofs.History
import NetRack.Proofs.Identity
import NetRack.Proofs.Isolation
import NetRack.Proofs.Itinerary
import NetRack.Proofs.Json.Numeral
import NetRack.Proofs.Json.RoundTrip
import NetRack.Proofs.Json.Text
import NetRack.Proofs.LatestEvents
import NetRack.Proofs.Lookup
import NetRack.Proofs.LowerCase
import NetRack.Proofs.Name
import NetRack.Proofs.Order
import NetRack.Proofs.Ospf.Adjacency
import NetRack.Proofs.Ospf.BestRoutes
import NetRack.Proofs.Ospf.FirstHops
import NetRack.Proofs.Ospf.LoopFree
import NetRack.Proofs.Ospf.Memory
import NetRack.Proofs.Ospf.Neighbors
import NetRack.Proofs.Ospf.Paths
import NetRack.Proofs.Ospf.Recompute
import NetRack.Proofs.Ospf.Results
import NetRack.Proofs.Ospf.Search
import NetRack.Proofs.Ospf.TwoWay
import NetRack.Proofs.Ospf.View
import NetRack.Proofs.PaddedIds
import NetRack.Proofs.Pings
import NetRack.Proofs.Ports.Command
import NetRack.Proofs.Ports.Line
import NetRack.Proofs.Ports.Step
import NetRack.Proofs.Propagation.Connected
import NetRack.Proofs.Propagation.Dirty
import NetRack.Proofs.Propagation.Logical
import NetRack.Proofs.Propagation.Outcome
import NetRack.Proofs.Propagation.Ports
import NetRack.Proofs.Propagation.Settled
import NetRack.Proofs.Propagation.Unique
import NetRack.Proofs.Propagation.Unreadable
import NetRack.Proofs.Reach
import NetRack.Proofs.ReadOnly
import NetRack.Proofs.References
import NetRack.Proofs.Resolver.Abbreviation
import NetRack.Proofs.Resolver.Canonical
import NetRack.Proofs.Resolver.Course
import NetRack.Proofs.Resolver.Numeral
import NetRack.Proofs.Resolver.Offending
import NetRack.Proofs.Resolver.Reading
import NetRack.Proofs.Resolver.Shift
import NetRack.Proofs.Resolver.Steps
import NetRack.Proofs.Resolver.Walk
import NetRack.Proofs.Resolver.Words
import NetRack.Proofs.Resolver.WrittenForm
import NetRack.Proofs.Result
import NetRack.Proofs.Route
import NetRack.Proofs.RouteTables
import NetRack.Proofs.Safety
import NetRack.Proofs.Settings.Command
import NetRack.Proofs.Settings.Line
import NetRack.Proofs.Settings.Step
import NetRack.Proofs.ShortName
import NetRack.Proofs.Show
import NetRack.Proofs.Snapshot.Codec
import NetRack.Proofs.Snapshot.Records
import NetRack.Proofs.Snapshot.RoundTrip
import NetRack.Proofs.Spelling
import NetRack.Proofs.Table
import NetRack.Proofs.Toolbox
import NetRack.Proofs.Topology
import NetRack.Proofs.Trace
import NetRack.Proofs.Trunk.Carried
import NetRack.Proofs.Trunk.RoundTrip
import NetRack.Proofs.Trunk.Runs
import NetRack.Proofs.Trunk.Wording
import NetRack.Proofs.Undo
import NetRack.Proofs.Unseated
import NetRack.Proofs.UpToDate
import NetRack.Proofs.WayBack
import NetRack.Resolver.Argument
import NetRack.Resolver.Basic
import NetRack.Session.Basic
import NetRack.Session.Log
import NetRack.Show.Interfaces
import NetRack.Show.Reachability
import NetRack.Show.Routing
import NetRack.Show.RunningConfig
import NetRack.Snapshot.Basic
import NetRack.Snapshot.Records
import NetRack.Table
import NetRack.Text.Blank
import NetRack.Text.Case
import NetRack.Text.Digest
import NetRack.Text.Digit
import NetRack.Text.Layout
import NetRack.Text.Letters
import NetRack.Text.Numeral
import NetRack.Text.Printable
import NetRack.Text.Quoted
import NetRack.Text.Span
import NetRack.Toolbox
import NetRack.Topology.Basic
import NetRack.Topology.Domain
import NetRack.Topology.Edit
import NetRack.Topology.Ospf
import NetRack.Topology.Propagation
import NetRack.Topology.Trace
import NetRack.Tutor
import NetRack.Vocabulary
