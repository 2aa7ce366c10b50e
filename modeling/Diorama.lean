import Diorama.ByteSize
import Diorama.Catalog.Basic
import Diorama.Catalog.Record
import Diorama.Component.FieldType
import Diorama.Component.Registry
import Diorama.Config
import Diorama.Entity
import Diorama.Failure
import Diorama.Host.Inbox
import Diorama.Host.Link
import Diorama.Host.Outbox
import Diorama.Host.Stream
import Diorama.Json.Basic
import Diorama.Json.Binary64
import Diorama.Json.Decode
import Diorama.Json.Draft
import Diorama.Json.Number
import Diorama.Json.Printer
import Diorama.Json.Reader
import Diorama.Json.Shortest
import Diorama.Json.Typed
import Diorama.Load
import Diorama.Log.Directive
import Diorama.Log.Event
import Diorama.Log.Level
import Diorama.Log.Line
import Diorama.Log.Logger
import Diorama.Log.Rules
import Diorama.Scene.Changes
import Diorama.Scene.Dispatch
import Diorama.Scene.Entities
import Diorama.Scene.Filter
import Diorama.Scene.Program
import Diorama.Scene.Queries
import Diorama.Scene.Replica
import Diorama.Scene.Roster
import Diorama.Scene.Schedule
import Diorama.Scene.Store
import Diorama.Scene.World
import Diorama.Schema.Check
import Diorama.Schema.Published
import Diorama.Session.Basic
import Diorama.Session.Tick
import Diorama.Table
import Diorama.Text.Alphabetic
import Diorama.Text.Alphanumeric
import Diorama.Text.Blank
import Diorama.Text.CodeRange
import Diorama.Text.Combining
import Diorama.Text.Cut
import Diorama.Text.Digits
import Diorama.Text.Pattern
import Diorama.Text.Quoted
import Diorama.Text.Unassigned
import Diorama.Wire.Batch
import Diorama.Wire.Frame
import Diorama.Wire.HostMessage
import Diorama.Proofs.Edits
import Diorama.Proofs.Moment
import Diorama.Proofs.Course
import Diorama.Proofs.Parts
import Diorama.Proofs.Lookup
import Diorama.Proofs.Living
import Diorama.Proofs.Touched
import Diorama.Proofs.Tracking
import Diorama.Proofs.Telling
import Diorama.Proofs.HostCopy
import Diorama.Proofs.Refinement
import Diorama.Proofs.NetChange
import Diorama.Proofs.BatchOrder
import Diorama.Proofs.Desk
import Diorama.Proofs.QueryLife
import Diorama.Proofs.Queue
import Diorama.Proofs.Silence
import Diorama.Proofs.Awaited
import Diorama.Proofs.Fates
import Diorama.Proofs.Deadline
import Diorama.Proofs.Enrolment
import Diorama.Proofs.Audience
import Diorama.Proofs.LiveTargets
import Diorama.Proofs.RunningOrder
import Diorama.Proofs.Calls
import Diorama.Proofs.SideBySide
import Diorama.Proofs.Isolation
import Diorama.Proofs.FailStop
import Diorama.Proofs.Numbering
import Diorama.Proofs.JsonText
import Diorama.Proofs.RoundTrip
import Diorama.Proofs.Framing
import Diorama.Proofs.Streams
import Diorama.Proofs.Messages
import Diorama.Proofs.Delivery
import Diorama.Proofs.Conduit
import Diorama.Proofs.Passage
import Diorama.Proofs.Replay
import Diorama.Proofs.Holdings
import Diorama.Proofs.Handles
import Diorama.Proofs.Sizes
import Diorama.Proofs.Settings
import Diorama.Proofs.Listings
import Diorama.Proofs.Unordered
import Diorama.Proofs.AnyOrder
import Diorama.Proofs.Positions
import Diorama.Proofs.Atomicity
import Diorama.Proofs.Selection
import Diorama.Proofs.Records
import Diorama.Proofs.Documents
import Diorama.Proofs.CatalogBuild
import Diorama.Proofs.CatalogLookup
import Diorama.Proofs.SizeTexts
import Diorama.Proofs.Declarations
import Diorama.Proofs.Colors
import Diorama.Proofs.FlatStore
import Diorama.Proofs.Backlog
import Diorama.Proofs.LogLines
