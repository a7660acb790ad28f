import CsiOperator.Text.Blank
import CsiOperator.Text.Numeral
import CsiOperator.Text.Visible
import CsiOperator.Text.Quoted
import CsiOperator.Decimal.Width
import CsiOperator.Decimal.Binary64
import CsiOperator.Decimal.Shortest
import CsiOperator.Time.Calendar
import CsiOperator.Time.Timestamp
import CsiOperator.Decode.Fault
import CsiOperator.Failure
import CsiOperator.Dialogue
import CsiOperator.Wake
import CsiOperator.Json.Basic
import CsiOperator.Json.Merge
import CsiOperator.Json.Printer
import CsiOperator.Json.Tree
import CsiOperator.Yaml.Character
import CsiOperator.Yaml.Gap
import CsiOperator.Yaml.Block
import CsiOperator.Yaml.Tag
import CsiOperator.Yaml.Plain
import CsiOperator.Yaml.Quoted
import CsiOperator.Yaml.Token
import CsiOperator.Yaml.Value
import CsiOperator.Yaml.Node
import CsiOperator.Yaml.Scalar
import CsiOperator.Yaml.Tree
import CsiOperator.Decode.Source
import CsiOperator.Decode.Instant
import CsiOperator.Decode.Json
import CsiOperator.Decode.Yaml
import CsiOperator.Yaml.Printer
import CsiOperator.File.Path
import CsiOperator.File.System
import CsiOperator.Asset
import CsiOperator.Resource.Type
import CsiOperator.Resource.Platform
import CsiOperator.Resource.ManagementState
import CsiOperator.Resource.RelatedObject
import CsiOperator.Resource.Condition
import CsiOperator.Resource.Metadata
import CsiOperator.Resource.Object
import CsiOperator.Resource.Infrastructure
import CsiOperator.Resource.FeatureGate
import CsiOperator.Resource.Storage
import CsiOperator.Resource.ClusterCsiDriver
import CsiOperator.Resource.ClusterOperator
import CsiOperator.Feature
import CsiOperator.Descriptor.Basic
import CsiOperator.Descriptor.Builtin
import CsiOperator.Descriptor.Eligibility
import CsiOperator.Descriptor.Validation
import CsiOperator.Descriptor.File
import CsiOperator.Manifest.Documents
import CsiOperator.Manifest.Basic
import CsiOperator.Api.Request
import CsiOperator.Api.Address
import CsiOperator.Api.Reply
import CsiOperator.Api.Server
import CsiOperator.Api.Client
import CsiOperator.Api.Snapshot
import CsiOperator.Api.Status
import CsiOperator.Api.Apply
import CsiOperator.Announcement
import CsiOperator.Api.Recorder
import CsiOperator.Ledger
import CsiOperator.Ledger.Shelf
import CsiOperator.Publication.Publish
import CsiOperator.Publication.Publisher
import CsiOperator.Controller.Periodic
import CsiOperator.Controller.Statics
import CsiOperator.Controller.Deployment
import CsiOperator.Controller.DriverObject
import CsiOperator.Controller.Basic
import CsiOperator.Controller.Supervisor
import CsiOperator.Degraded
import CsiOperator.Starter.Basic
import CsiOperator.Starter.Construction
import CsiOperator.Starter.Sync
import CsiOperator.Starter.Hosted
import CsiOperator.Starter.Reconcile
import CsiOperator.Watch.Query
import CsiOperator.Watch.Agenda
import CsiOperator.Watch.World
import CsiOperator.Kubeconfig
import CsiOperator.CommandLine.Setting
import CsiOperator.CommandLine.Level
import CsiOperator.CommandLine.Options
import CsiOperator.Program
import CsiOperator.Main
import CsiOperator.Proofs.Text.Numeral
import CsiOperator.Proofs.Text.Trimmed
import CsiOperator.Proofs.Decimal.Shortest
import CsiOperator.Proofs.Time.Calendar
import CsiOperator.Proofs.Time.Timestamp
import CsiOperator.Proofs.Failure
import CsiOperator.Proofs.Dialogue
import CsiOperator.Proofs.Json.Entries
import CsiOperator.Proofs.Json.Number
import CsiOperator.Proofs.Json.Quoted
import CsiOperator.Proofs.Json.Text
import CsiOperator.Proofs.Json.Reread
import CsiOperator.Proofs.Yaml.Character
import CsiOperator.Proofs.Yaml.Value
import CsiOperator.Proofs.Yaml.Block
import CsiOperator.Proofs.Yaml.Plain
import CsiOperator.Proofs.Yaml.Quoted
import CsiOperator.Proofs.Yaml.Scan
import CsiOperator.Proofs.Yaml.Scalar
import CsiOperator.Proofs.Yaml.Records
import CsiOperator.Proofs.Yaml.Document
import CsiOperator.Proofs.Decode.Record
import CsiOperator.Proofs.Decode.Part
import CsiOperator.Proofs.Decode.Field
import CsiOperator.Proofs.Decode.Changed
import CsiOperator.Proofs.Decode.Kept
import CsiOperator.Proofs.Decode.Written
import CsiOperator.Proofs.Json.Merge
import CsiOperator.Proofs.File.Walk
import CsiOperator.Proofs.File.Below
import CsiOperator.Proofs.File.Assets
import CsiOperator.Proofs.Resource.Type
import CsiOperator.Proofs.Resource.Condition
import CsiOperator.Proofs.Resource.History
import CsiOperator.Proofs.Resource.RelatedObject
import CsiOperator.Proofs.Resource.Metadata
import CsiOperator.Proofs.Resource.Status
import CsiOperator.Proofs.Resource.ClusterOperator
import CsiOperator.Proofs.Resource.Infrastructure
import CsiOperator.Proofs.Resource.Object
import CsiOperator.Proofs.Resource.Rereading
import CsiOperator.Proofs.Resource.Stored
import CsiOperator.Proofs.Descriptor.Acceptance
import CsiOperator.Proofs.Descriptor.Eligibility
import CsiOperator.Proofs.Descriptor.Refusal
import CsiOperator.Proofs.Descriptor.File
import CsiOperator.Proofs.Manifest.Lines
import CsiOperator.Proofs.Manifest.Pieces
import CsiOperator.Proofs.Manifest.Documents
import CsiOperator.Proofs.Manifest.Fields
import CsiOperator.Proofs.Manifest.Reading
import CsiOperator.Proofs.Manifest.Acceptance
import CsiOperator.Proofs.Api.Target
import CsiOperator.Proofs.Api.Store
import CsiOperator.Proofs.Api.Traffic
import CsiOperator.Proofs.Api.Conversation
import CsiOperator.Proofs.Api.Apply
import CsiOperator.Proofs.Manifest.Opening
import CsiOperator.Proofs.Manifest.Applied
import CsiOperator.Proofs.Manifest.Version
import CsiOperator.Proofs.Ledger.Shelf
import CsiOperator.Proofs.Publication.Publish
import CsiOperator.Proofs.Publication.Server
import CsiOperator.Proofs.Publication.Interleaving
import CsiOperator.Proofs.Publication.Deferred
import CsiOperator.Proofs.Publication.Ticks
import CsiOperator.Proofs.Controller.Resync
import CsiOperator.Proofs.Controller.Deployment
import CsiOperator.Proofs.Controller.Statics
import CsiOperator.Proofs.Controller.DriverObject
import CsiOperator.Proofs.Starter.Activation
import CsiOperator.Proofs.Starter.Construction
import CsiOperator.Proofs.Starter.Visit
import CsiOperator.Proofs.Starter.Run
import CsiOperator.Proofs.Starter.FirstEligible
import CsiOperator.Proofs.Starter.Recorded
import CsiOperator.Proofs.Starter.Overlap
import CsiOperator.Proofs.Starter.EarlyEnd
import CsiOperator.Proofs.Starter.Uninterrupted
import CsiOperator.Proofs.Starter.Orderly
import CsiOperator.Proofs.Starter.Serial
import CsiOperator.Proofs.Starter.Schedule
import CsiOperator.Proofs.Starter.Announced
import CsiOperator.Proofs.Starter.Unrecognized
import CsiOperator.Proofs.Starter.Hosted
import CsiOperator.Proofs.Starter.Round
import CsiOperator.Proofs.Starter.Reconcile
import CsiOperator.Proofs.Starter.Reporting
import CsiOperator.Proofs.Controller.Tasks
import CsiOperator.Proofs.Publication.Incarnations
import CsiOperator.Proofs.Degraded.Overlap
import CsiOperator.Proofs.Degraded.Settled
import CsiOperator.Proofs.Degraded.Repeated
import CsiOperator.Proofs.Watch.Series
import CsiOperator.Proofs.CommandLine.Given
import CsiOperator.Proofs.CommandLine.Scanned
import CsiOperator.Proofs.CommandLine.Lines
import CsiOperator.Proofs.CommandLine.Values
import CsiOperator.Proofs.CommandLine.Precedence
