import Srv6Mrc.Lib.Outcome
import Srv6Mrc.Lib.SlidingWindow
import Srv6Mrc.EvState.Config
import Srv6Mrc.EvState.Table
import Srv6Mrc.EvState.Record
import Srv6Mrc.EvState.Step
import Srv6Mrc.EvState.Floor
import Srv6Mrc.EvState.WeightGrid
import Srv6Mrc.EvState.History
import Srv6Mrc.EvState.Demotion
import Srv6Mrc.EvState.Detection
import Srv6Mrc.EvState.Recovery
import Srv6Mrc.EvState.TransitionLog
import Srv6Mrc.Lib.Closest
import Srv6Mrc.Loss.Window
import Srv6Mrc.Loss.Fusion
import Srv6Mrc.Loss.Run
import Srv6Mrc.Loss.Blackhole
import Srv6Mrc.Loss.Repair
import Srv6Mrc.Lib.Wire
import Srv6Mrc.Wire.Probe
import Srv6Mrc.Wire.RoundTrip
import Srv6Mrc.Loss.Receiver
import Srv6Mrc.Loss.Conservation
import Srv6Mrc.Loss.Agent
import Srv6Mrc.Loss.Calls
import Srv6Mrc.Loss.Duplicates
import Srv6Mrc.Loss.Trim
import Srv6Mrc.Lib.Json
import Srv6Mrc.Sent.Counters
import Srv6Mrc.Sent.Windows
import Srv6Mrc.Lib.Cumulative
import Srv6Mrc.Sent.Restart
import Srv6Mrc.Policy.Spines
import Srv6Mrc.Policy.Draw
import Srv6Mrc.Policy.Document
import Srv6Mrc.Policy.Doubles
import Srv6Mrc.Policy.Snapshot
import Srv6Mrc.Policy.Twin
import Srv6Mrc.Policy.Refresh
import Srv6Mrc.Policy.Publish
import Srv6Mrc.EvState.Outage
import Srv6Mrc.Policy.FlowFloor
import Srv6Mrc.Lib.Dict
import Srv6Mrc.Trim.Nack
import Srv6Mrc.Receive.Reorder
import Srv6Mrc.Lib.Hex
import Srv6Mrc.Lib.Ipv6
import Srv6Mrc.Topo.Plan
import Srv6Mrc.Receive.Receiver
import Srv6Mrc.Receive.TrimBlock
import Srv6Mrc.Daemon.Dispatch
import Srv6Mrc.Topo.Topology
import Srv6Mrc.Lib.Route
import Srv6Mrc.Lib.Srv6
import Srv6Mrc.Fabric.Config
import Srv6Mrc.Fabric.Address
import Srv6Mrc.Fabric.Network
import Srv6Mrc.Fabric.Tables
import Srv6Mrc.Fabric.Ends
import Srv6Mrc.Fabric.Delivery
import Srv6Mrc.Fabric.ProbeTrip
import Srv6Mrc.Fabric.Sound
import Srv6Mrc.Lib.Binary64
import Srv6Mrc.Lib.Text
import Srv6Mrc.Lib.Reprint
import Srv6Mrc.Lib.Yaml
import Srv6Mrc.Lib.Verdict
import Srv6Mrc.Scenario.PolicySpec
import Srv6Mrc.Scenario.Netem
import Srv6Mrc.Scenario.Fields
import Srv6Mrc.Scenario.Validate
import Srv6Mrc.Scenario.Looks
import Srv6Mrc.Scenario.Sound
import Srv6Mrc.Scenario.Settled
import Srv6Mrc.Scenario.Cli
import Srv6Mrc.Scenario.Arrival
import Srv6Mrc.Loss.Rounds
import Srv6Mrc.Receive.Accounts
import Srv6Mrc.Lib.Checksum
import Srv6Mrc.Packet.Build
import Srv6Mrc.Faults.Netem
import Srv6Mrc.Faults.Unwind
import Srv6Mrc.Faults.Covered
import Srv6Mrc.Faults.Commands
import Srv6Mrc.Packet.Fast
import Srv6Mrc.Packet.Parse
import Srv6Mrc.Report.Attribution
import Srv6Mrc.Report.Merge
import Srv6Mrc.Lib.Quantile
import Srv6Mrc.Lib.Residues
import Srv6Mrc.Policy.Exact
import Srv6Mrc.Policy.Spray
import Srv6Mrc.Policy.Retransmit
import Srv6Mrc.Lib.Tally
import Srv6Mrc.Send.Sender
import Srv6Mrc.Send.Balance
import Srv6Mrc.EvState.Interleaving
import Srv6Mrc.Send.Refinement
import Srv6Mrc.Routes.Expansion
import Srv6Mrc.Routes.Table
import Srv6Mrc.Routes.Listing
import Srv6Mrc.Packet.UdpChecksum
import Srv6Mrc.Receive.Histogram
import Srv6Mrc.Topo.Subsets
import Srv6Mrc.Sent.Pairing
import Srv6Mrc.Report.Unused
import Srv6Mrc.Topo.Address
import Srv6Mrc.Transport.Return
import Srv6Mrc.Daemon.Emission
import Srv6Mrc.Daemon.Spawn
import Srv6Mrc.Fabric.Outage
import Srv6Mrc.Faults.Wires
