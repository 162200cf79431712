import CallFlow.Agent.Record
import CallFlow.Config.Basic
import CallFlow.Flow.Codec
import CallFlow.Http.Remote
import CallFlow.Main
import CallFlow.Rehearsal.Schedule
import CallFlow.Script.Compile
import CallFlow.Tool.Merge
import CallFlow.Tool.Resolve
import CallFlow.Proofs.Scene.Basic
import CallFlow.Proofs.Scene.Run
import CallFlow.Proofs.Scene.Account
import CallFlow.Proofs.Scene.Fate
import CallFlow.Proofs.Scene.Attempt
import CallFlow.Proofs.Scene.Snapshot
import CallFlow.Proofs.Scene.Version
import CallFlow.Proofs.Arrivals
import CallFlow.Proofs.Tool.Name
import CallFlow.Proofs.Tool.Resolve
import CallFlow.Proofs.Script.Compile
import CallFlow.Proofs.Script.Agreement
import CallFlow.Proofs.Tool.Set
import CallFlow.Proofs.Tool.Merge
import CallFlow.Proofs.Text.Line
import CallFlow.Proofs.Script.Numbered
import CallFlow.Proofs.Agent.Discovery
import CallFlow.Proofs.Scene.Protocol
import CallFlow.Proofs.Agent.Directory
import CallFlow.Proofs.Deploy.Run
import CallFlow.Proofs.Rehearsal.Preview
import CallFlow.Proofs.Tool.Layers
import CallFlow.Proofs.Rehearsal.History
import CallFlow.Proofs.Rehearsal.Redeploy
import CallFlow.Proofs.Rehearsal.Isolation
import CallFlow.Proofs.Scene.Setting
import CallFlow.Proofs.Scene.Cancel
import CallFlow.Proofs.Scene.Cancellation
import CallFlow.Proofs.Script.Layout
import CallFlow.Proofs.Json.Numeral
import CallFlow.Proofs.Json.Token
import CallFlow.Proofs.Json.Document
import CallFlow.Proofs.Json.Canonical
import CallFlow.Proofs.Json.Record
import CallFlow.Proofs.Json.ReadBack
import CallFlow.Proofs.Json.Refine
import CallFlow.Proofs.Flow.Codec
import CallFlow.Proofs.Flow.WellFormed
import CallFlow.Proofs.Json.Normal
import CallFlow.Proofs.Tool.Codec
import CallFlow.Proofs.Tool.Built
import CallFlow.Proofs.Agent.Codec
import CallFlow.Proofs.Http.Address
import CallFlow.Proofs.Agent.Recovery
import CallFlow.Proofs.Http.Service
import CallFlow.Proofs.Http.Interchange
import CallFlow.Proofs.Text.Word
import CallFlow.Proofs.Script.Meaning
import CallFlow.Proofs.Script.Extension
import CallFlow.Proofs.Agent.Replay
import CallFlow.Proofs.CommandLine.DryRun
import CallFlow.Proofs.CommandLine.FlowFile
import CallFlow.Proofs.Rehearsal.Replay
import CallFlow.Proofs.Tool.Numbering
import CallFlow.Proofs.Tool.OrderedMap
import CallFlow.Proofs.Agent.Degradation
import CallFlow.Proofs.Deploy.Delay
import CallFlow.Proofs.Tool.Binding
import CallFlow.Proofs.Config.Environment
import CallFlow.Proofs.Config.Loading
import CallFlow.Proofs.Config.Key
import CallFlow.Proofs.Http.Percent
import CallFlow.Proofs.Http.Segment
