import Whiteboard.Document.Keys
import Whiteboard.Document.Replica
import Whiteboard.Document.Store
import Whiteboard.Failure
import Whiteboard.Fault
import Whiteboard.Frame.Basic
import Whiteboard.Frame.Codec
import Whiteboard.Frame.Varint
import Whiteboard.Json.Error
import Whiteboard.Json.Lexer
import Whiteboard.Json.Reader
import Whiteboard.Json.Skip
import Whiteboard.Json.Tree
import Whiteboard.Json.View
import Whiteboard.Log
import Whiteboard.Message.Basic
import Whiteboard.Message.Codec
import Whiteboard.Message.Described
import Whiteboard.Message.Shapes
import Whiteboard.Numeric.Binary
import Whiteboard.Numeric.Notation
import Whiteboard.Numeric.Shortest
import Whiteboard.Numeric.Single
import Whiteboard.Participant
import Whiteboard.Proofs.Document.Acceptance
import Whiteboard.Proofs.Document.Changes
import Whiteboard.Proofs.Document.Interleaving
import Whiteboard.Proofs.Document.Joiners
import Whiteboard.Proofs.Document.Pending
import Whiteboard.Proofs.Document.Places
import Whiteboard.Proofs.Document.Replay
import Whiteboard.Proofs.Document.Rollback
import Whiteboard.Proofs.Document.Snapshots
import Whiteboard.Proofs.Document.Touched
import Whiteboard.Proofs.Frame.Extension
import Whiteboard.Proofs.Frame.RoundTrip
import Whiteboard.Proofs.Frame.Spelling
import Whiteboard.Proofs.Frame.Varint
import Whiteboard.Proofs.Json.Grammar
import Whiteboard.Proofs.Json.Numbers
import Whiteboard.Proofs.Json.Reading
import Whiteboard.Proofs.Json.Rereading
import Whiteboard.Proofs.Json.RoundTrip
import Whiteboard.Proofs.Json.Skipping
import Whiteboard.Proofs.Json.Spacing
import Whiteboard.Proofs.Json.Spellings
import Whiteboard.Proofs.Json.Steps
import Whiteboard.Proofs.Json.Strings
import Whiteboard.Proofs.Message.Extension
import Whiteboard.Proofs.Message.Json
import Whiteboard.Proofs.Message.RoundTrip
import Whiteboard.Proofs.Message.Spelling
import Whiteboard.Proofs.Message.Variants
import Whiteboard.Proofs.Participant.Apply
import Whiteboard.Proofs.Participant.Attendance
import Whiteboard.Proofs.Participant.Effects
import Whiteboard.Proofs.Participant.Home
import Whiteboard.Proofs.Participant.Joining
import Whiteboard.Proofs.Participant.Numbers
import Whiteboard.Proofs.Participant.Queue
import Whiteboard.Proofs.Participant.Runs
import Whiteboard.Proofs.Relay.Convergence
import Whiteboard.Proofs.Relay.Network
import Whiteboard.Proofs.Sync.Broadcast
import Whiteboard.Proofs.Sync.Callers
import Whiteboard.Proofs.Sync.Chronicle
import Whiteboard.Proofs.Sync.Conduct
import Whiteboard.Proofs.Sync.Correlation
import Whiteboard.Proofs.Sync.Draining
import Whiteboard.Proofs.Sync.Expiry
import Whiteboard.Proofs.Sync.Feed
import Whiteboard.Proofs.Sync.Forwarding
import Whiteboard.Proofs.Sync.Invalidation
import Whiteboard.Proofs.Sync.Keeping
import Whiteboard.Proofs.Sync.Ledger
import Whiteboard.Proofs.Sync.Logging
import Whiteboard.Proofs.Sync.Operation
import Whiteboard.Proofs.Sync.Outbox
import Whiteboard.Proofs.Sync.Passes
import Whiteboard.Proofs.Sync.Projection
import Whiteboard.Proofs.Sync.Registry
import Whiteboard.Proofs.Sync.Returning
import Whiteboard.Proofs.Sync.Rosters
import Whiteboard.Proofs.Sync.Runs
import Whiteboard.Proofs.Sync.Sequence
import Whiteboard.Proofs.Sync.Settling
import Whiteboard.Proofs.Sync.Submission
import Whiteboard.Proofs.Sync.Subscribers
import Whiteboard.Proofs.Sync.Taking
import Whiteboard.Proofs.Sync.Telling
import Whiteboard.Proofs.Sync.Tidings
import Whiteboard.Scenario.Answer
import Whiteboard.Scenario.Clients
import Whiteboard.Scenario.Document
import Whiteboard.Scenario.Participants
import Whiteboard.Scenario.Stage
import Whiteboard.Shape
import Whiteboard.Sync.Client
import Whiteboard.Sync.Clock
import Whiteboard.Sync.Core
import Whiteboard.Sync.Feed
import Whiteboard.Sync.Link
import Whiteboard.Sync.Replies
import Whiteboard.Sync.Watchers
import Whiteboard.Text.Quoted
import Whiteboard.Text.Unprinted
import Whiteboard.Text.Utf8
import Whiteboard.Uuid
