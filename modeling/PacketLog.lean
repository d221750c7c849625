import PacketLog.Main
import PacketLog.Packet.Draft
import PacketLog.Packet.Size
import PacketLog.Pattern.Segment
import PacketLog.Trace.Basic
import PacketLog.Wire.Reader
import PacketLog.Proofs.Packet.Code
import PacketLog.Proofs.Wire.Stream
import PacketLog.Proofs.Output.Device
import PacketLog.Proofs.Output.Emission
import PacketLog.Proofs.Output.Ledger
import PacketLog.Proofs.Output.Tally
import PacketLog.Proofs.Replay.Lines
import PacketLog.Proofs.Output.Phases
import PacketLog.Proofs.Wire.Recovery
import PacketLog.Proofs.Session.Gate
import PacketLog.Proofs.Event.Route
import PacketLog.Proofs.Session.Calls
import PacketLog.Proofs.Session.Occurrence
import PacketLog.Proofs.Replay.Reading
import PacketLog.Proofs.Session.Offers
import PacketLog.Proofs.Pattern.Renderer
import PacketLog.Proofs.Output.Lines
import PacketLog.Proofs.Output.Depth
import PacketLog.Proofs.Session.Nesting
import PacketLog.Proofs.Replay.Publication
import PacketLog.Proofs.Event.Title
import PacketLog.Proofs.Wire.Size
import PacketLog.Proofs.Packet.Labels
import PacketLog.Proofs.Pattern.Width
import PacketLog.Proofs.Pattern.Segment
import PacketLog.Pattern.Scanner
import PacketLog.Proofs.Config.Validation
import PacketLog.Proofs.Report.Throttle
import PacketLog.Proofs.Trace.Fields
import PacketLog.Proofs.Text.Slice
import PacketLog.Proofs.Pattern.Scanner
import PacketLog.Proofs.Pattern.Lossless
import PacketLog.Proofs.Packet.Draft
import PacketLog.Proofs.Packet.Insertion
import PacketLog.Proofs.Trace.Internal
import PacketLog.Pattern.Buffer
import PacketLog.Proofs.Pattern.Buffer
import PacketLog.Proofs.Pattern.Alignment
