import ViewerBridge.Boundary.EventLoop
import ViewerBridge.Bridge.Run
import ViewerBridge.Connection.Run
import ViewerBridge.Log.Filter
import ViewerBridge.Wire.Composer
import ViewerBridge.Proofs.Wire.Passing
import ViewerBridge.Proofs.Wire.Chunking
import ViewerBridge.Proofs.Wire.RoundTrip
import ViewerBridge.Proofs.Wire.Stream
import ViewerBridge.Proofs.Wire.Canonical
import ViewerBridge.Proofs.Bridge.Invariant
import ViewerBridge.Proofs.Bridge.Outbound
import ViewerBridge.Proofs.Bridge.SymbolAnswers
import ViewerBridge.Proofs.Bridge.PlotRequests
import ViewerBridge.Proofs.Bridge.Custody
import ViewerBridge.Proofs.Bridge.Unread
import ViewerBridge.Proofs.Bridge.Readiness
import ViewerBridge.Proofs.Bridge.Awaiting
import ViewerBridge.Proofs.Bridge.Replies
import ViewerBridge.Proofs.Connection.SingleClient
import ViewerBridge.Proofs.Wire.Carrying
import ViewerBridge.Proofs.Connection.Delivery
import ViewerBridge.Proofs.Boundary.ForeignTexts
import ViewerBridge.Proofs.Boundary.Occurrences
import ViewerBridge.Proofs.Boundary.LastFailure
import ViewerBridge.Proofs.Boundary.Dispatch
import ViewerBridge.Proofs.Process.Lifecycle
import ViewerBridge.Proofs.Wire.Looking
import ViewerBridge.Proofs.Wire.Truncation
import ViewerBridge.Proofs.Wire.Waiting
import ViewerBridge.Proofs.Buffer.Sizes
import ViewerBridge.Proofs.Buffer.Sending
import ViewerBridge.Proofs.Boundary.Descriptions
import ViewerBridge.Proofs.Boundary.Plotting
import ViewerBridge.Proofs.Wire.Limits
import ViewerBridge.Proofs.Pending.History
import ViewerBridge.Proofs.Wire.Composing
import ViewerBridge.Proofs.Launch.CommandLine
import ViewerBridge.Proofs.Buffer.Normalizing
import ViewerBridge.Proofs.Json.TextLists
import ViewerBridge.Proofs.Options.Documents
import ViewerBridge.Proofs.Boundary.SymbolLists
import ViewerBridge.Proofs.Boundary.Counting
import ViewerBridge.Proofs.Connection.Remembered
import ViewerBridge.Proofs.Process.Confirming
import ViewerBridge.Proofs.Bridge.Deadline
import ViewerBridge.Proofs.Log.Fields
import ViewerBridge.Proofs.Log.Filters
