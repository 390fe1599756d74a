import EchoWatch.Capture.Listener
import EchoWatch.Command.Run
import EchoWatch.Journal.Template
import EchoWatch.Main
import EchoWatch.Proofs.Debouncer.Name
import EchoWatch.Proofs.Debouncer.Order
import EchoWatch.Proofs.Debouncer.Window
import EchoWatch.Proofs.Peer.Routing
import EchoWatch.Proofs.Watch.Liveness
import EchoWatch.Proofs.Net.Interval
import EchoWatch.Proofs.Debouncer.Verdict
import EchoWatch.Proofs.Watch.Record
import EchoWatch.Proofs.Watch.Evidence
import EchoWatch.Proofs.Watch.Verbosity
import EchoWatch.Proofs.Watch.Chronicle
import EchoWatch.Proofs.Watch.Silence
import EchoWatch.Proofs.Delivery.Workroom
import EchoWatch.Proofs.Delivery.Carrier
import EchoWatch.Proofs.Watch.Opacity
import EchoWatch.Proofs.Watch.Lifecycle
import EchoWatch.Proofs.Watch.Ingestion
import EchoWatch.Proofs.Watch.Undisturbed
import EchoWatch.Proofs.Lock.Exclusion
import EchoWatch.Proofs.Lock.Wakeup
import EchoWatch.Proofs.Peer.Holders
import EchoWatch.Proofs.Watch.Counterpart
import EchoWatch.Proofs.Watch.Reorder
import EchoWatch.Proofs.Watch.Shadow
import EchoWatch.Proofs.Capture.Listening
import EchoWatch.Proofs.Watch.Grid
import EchoWatch.Proofs.Command.Failure
import EchoWatch.Proofs.Command.Validation
import EchoWatch.Proofs.Number.Rounding
import EchoWatch.Proofs.Time.Range
import EchoWatch.Proofs.Text.Pattern
import EchoWatch.Proofs.Time.Grammar
import EchoWatch.Proofs.Time.Scan
import EchoWatch.Proofs.Time.Conversion
import EchoWatch.Proofs.Time.Reading
import EchoWatch.Proofs.Time.Whole
import EchoWatch.Proofs.Settings.Acceptance
import EchoWatch.Proofs.Settings.Loading
import EchoWatch.Proofs.Settings.Spelling
import EchoWatch.Proofs.Watch.Pace
import EchoWatch.Proofs.Peer.Construction
import EchoWatch.Proofs.Net.Quad
import EchoWatch.Proofs.Net.Groups
import EchoWatch.Proofs.Net.NormalForm
import EchoWatch.Proofs.Command.Reading
import EchoWatch.Proofs.Command.Notification
import EchoWatch.Proofs.Time.Epoch
import EchoWatch.Proofs.Watch.Reach
import EchoWatch.Proofs.Watch.Mismatch
import EchoWatch.Proofs.Journal.Written
