import Courier.Calendar.Date
import Courier.Calendar.Digits
import Courier.Calendar.Moment
import Courier.Calendar.Span
import Courier.Calendar.Timestamp
import Courier.Code
import Courier.Decimal.Shortest
import Courier.Delivery.Batch
import Courier.Delivery.Inquiry
import Courier.Delivery.Intervention
import Courier.Delivery.Names
import Courier.Delivery.Outcome
import Courier.Delivery.Preparation
import Courier.Delivery.Stream
import Courier.Delivery.Transfer
import Courier.Digest.Sha256
import Courier.Files.Change
import Courier.Files.Operation
import Courier.Files.Path
import Courier.Files.Tree
import Courier.Json.Basic
import Courier.Json.Decode
import Courier.Json.Float
import Courier.Json.Loose
import Courier.Json.Reader
import Courier.Json.Writer
import Courier.Main
import Courier.Ordered
import Courier.Pattern.Regex.Basic
import Courier.Pattern.Regex.CharSet
import Courier.Pattern.Regex.Reader
import Courier.Pattern.Unicode.Binary
import Courier.Pattern.Unicode.Category
import Courier.Pattern.Unicode.Folding
import Courier.Pattern.Unicode.Runs
import Courier.Pattern.Unicode.Script
import Courier.Pattern.Wildcard
import Courier.Session.Connection
import Courier.Session.Fault
import Courier.Session.Policy
import Courier.Session.Program
import Courier.Simulation.OrderReader
import Courier.Simulation.Report
import Courier.Simulation.Schedule
import Courier.Simulation.Script
import Courier.Simulation.ScriptReader
import Courier.Simulation.World
import Courier.Spool.Bulletin
import Courier.Spool.Configuration
import Courier.Spool.Dispatch
import Courier.Spool.Fault
import Courier.Spool.Item
import Courier.Spool.Job
import Courier.Spool.Lock
import Courier.Spool.Monitor
import Courier.Spool.Service
import Courier.Spool.Watch
import Courier.Text.Blank
import Courier.Text.Hex
import Courier.Transfer.Fault
import Courier.Transfer.Key
import Courier.Transfer.Ledger
import Courier.Transfer.LedgerFile
import Courier.Transfer.Mode
import Courier.Transfer.Order
import Courier.Transfer.Partner
import Courier.Transfer.Record
import Courier.Transfer.Rule
import Courier.Wire.Command
import Courier.Wire.Packet
import Courier.Wire.Query
import Courier.Proofs.Json.RoundTrip
import Courier.Proofs.Calendar.RoundTrip
import Courier.Proofs.Transfer.StoredForm
import Courier.Proofs.Transfer.Consistency
import Courier.Proofs.Transfer.History
import Courier.Proofs.Transfer.Durability
import Courier.Proofs.Session.Runs
import Courier.Proofs.Delivery.Attempt
import Courier.Proofs.Delivery.Retry
import Courier.Proofs.Delivery.Stages
import Courier.Proofs.Delivery.Preparation
import Courier.Proofs.Delivery.Provenance
import Courier.Proofs.Delivery.Endings
import Courier.Proofs.Session.Conduct
import Courier.Proofs.Delivery.Conduct
import Courier.Proofs.Delivery.Sending
import Courier.Proofs.Delivery.Discipline
import Courier.Proofs.Files.PathOrder
import Courier.Proofs.Spool.Rows
import Courier.Proofs.Spool.Looks
import Courier.Proofs.Spool.Writing
import Courier.Proofs.Spool.Deeds
import Courier.Proofs.Spool.Departure
import Courier.Proofs.Spool.Handling
import Courier.Proofs.Spool.Summaries
import Courier.Proofs.Spool.Life
import Courier.Proofs.Spool.Detection
import Courier.Proofs.Spool.Checkpoint
import Courier.Proofs.Spool.Views
import Courier.Proofs.Delivery.Requests
import Courier.Proofs.Delivery.Lockstep
import Courier.Proofs.Delivery.Transience
import Courier.Proofs.Delivery.Interruption
import Courier.Proofs.Delivery.Aliases
import Courier.Proofs.Delivery.Traversal
import Courier.Proofs.Delivery.Independence
import Courier.Proofs.Spool.Counting
import Courier.Proofs.Spool.Crew
import Courier.Proofs.Spool.Standing
import Courier.Proofs.Spool.Exclusion
import Courier.Proofs.Spool.Aliases
import Courier.Proofs.Delivery.Frames
import Courier.Proofs.Delivery.Retiming
import Courier.Proofs.Delivery.Interleaving
import Courier.Proofs.Wire.Commands
import Courier.Proofs.Transfer.Numbering
import Courier.Proofs.Wire.Messages
import Courier.Proofs.Delivery.Roles
import Courier.Proofs.Files.Joining
import Courier.Proofs.Spool.Snapshots
import Courier.Proofs.Spool.Tracking
import Courier.Proofs.Spool.Course
import Courier.Proofs.Spool.Patience
import Courier.Proofs.Spool.Quiet
import Courier.Proofs.Spool.StoredStatus
import Courier.Proofs.Spool.Reload
import Courier.Proofs.Delivery.Callees
import Courier.Proofs.Spool.Resubmission
import Courier.Proofs.Delivery.StreamContent
import Courier.Proofs.Files.View
import Courier.Proofs.Files.Expansion
import Courier.Proofs.Spool.Briefing
import Courier.Proofs.Spool.Contest
import Courier.Proofs.Delivery.Deferral
import Courier.Proofs.Delivery.FailureCodes
import Courier.Proofs.Spool.Ending
import Courier.Proofs.Spool.ExitStatus
import Courier.Proofs.Files.Places
import Courier.Proofs.Spool.StoredConfiguration
import Courier.Proofs.Spool.StateFiles
import Courier.Proofs.Json.Floats
import Courier.Proofs.Spool.Validity
import Courier.Proofs.Spool.Opening
import Courier.Proofs.Spool.Winding
import Courier.Proofs.Spool.Gate
