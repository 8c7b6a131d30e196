import TimedDataflow.Network
import TimedDataflow.Session.Step
import TimedDataflow.Session.KeeperBench
import TimedDataflow.Session.TracerBench
import TimedDataflow.Text.Hex
import TimedDataflow.Trace.Tracer
import TimedDataflow.Proofs.Keeper.Standings
import TimedDataflow.Proofs.Queue.Discipline
import TimedDataflow.Proofs.Receiver.Sections
import TimedDataflow.Proofs.Receiver.Awaiting
import TimedDataflow.Proofs.System.Locality
import TimedDataflow.Proofs.Process.Intake
import TimedDataflow.Proofs.Process.Parties
import TimedDataflow.Proofs.Process.Preparation
import TimedDataflow.Proofs.Process.Reading
import TimedDataflow.Proofs.Process.Chronology
import TimedDataflow.Proofs.Process.Arrivals
import TimedDataflow.Proofs.Process.Merging
import TimedDataflow.Proofs.Process.Schedule
import TimedDataflow.Proofs.Process.Lookout
import TimedDataflow.Proofs.Process.Release
import TimedDataflow.Proofs.Receiver.Notices
import TimedDataflow.Proofs.System.Ledger
import TimedDataflow.Proofs.System.Accounts
import TimedDataflow.Proofs.System.Assembly
import TimedDataflow.Proofs.Queue.Lateness
import TimedDataflow.Proofs.Queue.Revival
import TimedDataflow.Proofs.System.Crew
import TimedDataflow.Proofs.Receiver.Tracking
import TimedDataflow.Proofs.Receiver.Refusals
import TimedDataflow.Proofs.System.Tracking
import TimedDataflow.Proofs.System.Straying
import TimedDataflow.Proofs.Receiver.Waiting
import TimedDataflow.Proofs.System.Staffing
import TimedDataflow.Proofs.System.Vigil
import TimedDataflow.Proofs.System.Watch
import TimedDataflow.Proofs.System.Sleepers
import TimedDataflow.Proofs.Trace.Frames
import TimedDataflow.Proofs.System.Enrolment
import TimedDataflow.Proofs.System.Pending
import TimedDataflow.Proofs.System.Resumption
import TimedDataflow.Proofs.System.Resolution
import TimedDataflow.Proofs.System.Deadlocks
import TimedDataflow.Proofs.Receiver.Streams
import TimedDataflow.Proofs.System.Streams
import TimedDataflow.Proofs.Program.Carrying
import TimedDataflow.Proofs.System.Relays
import TimedDataflow.Proofs.Trace.Payloads
import TimedDataflow.Proofs.Keeper.Turns
import TimedDataflow.Proofs.Trace.Tales
import TimedDataflow.Proofs.System.Hearing
import TimedDataflow.Proofs.System.Chronicles
import TimedDataflow.Proofs.System.Companies
import TimedDataflow.Proofs.Program.Lives
import TimedDataflow.Proofs.Receiver.Lasting
import TimedDataflow.Proofs.System.Departures
import TimedDataflow.Proofs.Process.WindingDown
import TimedDataflow.Proofs.System.Flushing
import TimedDataflow.Proofs.System.Placement
import TimedDataflow.Proofs.Queue.Completion
import TimedDataflow.Proofs.System.Branches
import TimedDataflow.Proofs.System.BranchCounts
import TimedDataflow.Proofs.Program.Resting
import TimedDataflow.Proofs.Receiver.Draining
import TimedDataflow.Proofs.System.Ranks
import TimedDataflow.Proofs.Process.Stopping
import TimedDataflow.Proofs.Receiver.Writers
import TimedDataflow.Proofs.System.Scribes
import TimedDataflow.Proofs.System.Granting
import TimedDataflow.Proofs.Keeper.Horizon
import TimedDataflow.Proofs.System.BranchStandstill
import TimedDataflow.Proofs.System.Endings
import TimedDataflow.Proofs.System.Freezing
import TimedDataflow.Proofs.Trace.Cursors
import TimedDataflow.Proofs.Trace.Damage
import TimedDataflow.Proofs.Trace.Numbering
import TimedDataflow.Proofs.Network.Wiring
