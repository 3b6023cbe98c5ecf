import Quiescence.Session
import Quiescence.Moment.Rfc3339
import Quiescence.Decimal.Shortest
import Quiescence.Document.Record
import Quiescence.Json.Reader
import Quiescence.Json.Writer
import Quiescence.Coding
import Quiescence.Settings
import Quiescence.Toml.Reader
import Quiescence.Replay
import Quiescence.Main
import Quiescence.Proofs.Ledger.Roll
import Quiescence.Proofs.Ledger.Bookkeeping
import Quiescence.Proofs.Session.Verdict
import Quiescence.Proofs.Session.Occupancy
import Quiescence.Proofs.Session.Wakeup
import Quiescence.Proofs.Session.ForcedClose
import Quiescence.Proofs.Session.Account
import Quiescence.Proofs.Replay.Verdict
import Quiescence.Proofs.Barrier.Records
import Quiescence.Proofs.Session.LastEvent
import Quiescence.Proofs.Replay.Outcome
import Quiescence.Proofs.Session.Unobserved
import Quiescence.Proofs.Barrier.Adds
import Quiescence.Proofs.Session.Adds
import Quiescence.Proofs.Session.Unmade
import Quiescence.Proofs.Session.Failure
import Quiescence.Proofs.Barrier.Pace
import Quiescence.Proofs.Session.Feeding
import Quiescence.Proofs.Event.Reordering
import Quiescence.Proofs.Session.Reordering
import Quiescence.Proofs.Command.Ending
import Quiescence.Proofs.Gate.Parks
import Quiescence.Proofs.Barrier.Parks
import Quiescence.Proofs.Session.Parks
import Quiescence.Proofs.Session.Suspension
import Quiescence.Proofs.Barrier.Panic
import Quiescence.Proofs.Session.Announcement
import Quiescence.Proofs.Replay.Report
import Quiescence.Proofs.Json.Grammar
import Quiescence.Proofs.Json.Layout
import Quiescence.Proofs.Json.Reading
import Quiescence.Proofs.Document.Record
import Quiescence.Proofs.Json.Lossless
import Quiescence.Proofs.Moment.Calendar
import Quiescence.Proofs.Moment.Rfc3339
import Quiescence.Proofs.Replay.Rendering
import Quiescence.Proofs.Session.Shelving
import Quiescence.Proofs.Document.Fields
import Quiescence.Proofs.Document.Rewording
import Quiescence.Proofs.Settings.Wording
import Quiescence.Proofs.Settings.Validity
import Quiescence.Proofs.Command.Configuration
import Quiescence.Proofs.Document.Given
import Quiescence.Proofs.Json.Canonical
import Quiescence.Proofs.Document.Readable
import Quiescence.Proofs.Session.Numbering
