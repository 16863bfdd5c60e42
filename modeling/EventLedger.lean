import EventLedger.Admin.Command
import EventLedger.Admin.CommandLine
import EventLedger.Admin.Output
import EventLedger.Admin.Program
import EventLedger.Aggregate
import EventLedger.Backoff
import EventLedger.Batch
import EventLedger.Call
import EventLedger.Codec
import EventLedger.Error
import EventLedger.Event
import EventLedger.EventLog
import EventLedger.Identity
import EventLedger.Json.Decode
import EventLedger.Json.Parser
import EventLedger.Json.Printer
import EventLedger.Json.Value
import EventLedger.Main
import EventLedger.Metadata
import EventLedger.Metadata.Provider
import EventLedger.Number.Binary64
import EventLedger.Number.Chance
import EventLedger.Number.Shortest
import EventLedger.Number.Unsigned
import EventLedger.OrderedMap
import EventLedger.Orders.Commands
import EventLedger.Orders.Event
import EventLedger.Orders.Order
import EventLedger.Orders.Store
import EventLedger.Orders.Upgraders
import EventLedger.Proofs.Call.Discipline
import EventLedger.Proofs.Clients.Alone
import EventLedger.Proofs.Clients.Commits
import EventLedger.Proofs.Clients.Freshness
import EventLedger.Proofs.Clients.Invariant
import EventLedger.Proofs.Clients.LastBatch
import EventLedger.Proofs.Clients.Loading
import EventLedger.Proofs.Clients.Missed
import EventLedger.Proofs.Clients.Recovery
import EventLedger.Proofs.Clients.Requests
import EventLedger.Proofs.Clients.Schedule
import EventLedger.Proofs.Clients.Setting
import EventLedger.Proofs.Clients.System
import EventLedger.Proofs.Clients.Updating
import EventLedger.Proofs.Clients.World
import EventLedger.Proofs.Metadata
import EventLedger.Proofs.Orders.CacheFreshness
import EventLedger.Proofs.Orders.Forms
import EventLedger.Proofs.Orders.Redelivery
import EventLedger.Proofs.Orders.Serializability
import EventLedger.Proofs.Orders.Setting
import EventLedger.Proofs.Orders.SnapshotTransparency
import EventLedger.Proofs.Reading
import EventLedger.Proofs.Stream
import EventLedger.Proofs.StreamCache
import EventLedger.Simulation.Caller
import EventLedger.Simulation.Doubles
import EventLedger.Simulation.Fresh
import EventLedger.Simulation.Naming
import EventLedger.Simulation.RetryClient
import EventLedger.Simulation.Scripted
import EventLedger.Simulation.ScriptedOperation
import EventLedger.Simulation.TableClient
import EventLedger.Simulation.World
import EventLedger.Snapshot
import EventLedger.Storage
import EventLedger.Store
import EventLedger.Store.Surroundings
import EventLedger.StoreConfig
import EventLedger.StreamCache
import EventLedger.Tables.Address
import EventLedger.Tables.Failure
import EventLedger.Tables.Faults
import EventLedger.Tables.Migrate
import EventLedger.Tables.Retry
import EventLedger.Tables.Row
import EventLedger.Tables.Server
import EventLedger.Tables.Statement
import EventLedger.Tables.Storage
import EventLedger.Text.Blank
import EventLedger.Text.Composition
import EventLedger.Text.Composition.Table
import EventLedger.Text.Direction
import EventLedger.Text.Folding
import EventLedger.Text.Folding.Table
import EventLedger.Text.Joining
import EventLedger.Text.Mark
import EventLedger.Text.Printable
import EventLedger.Text.Quoted
import EventLedger.Text.Table
import EventLedger.Text.Utf8
import EventLedger.Time.Duration
import EventLedger.Time.Instant
import EventLedger.Upgrade
import EventLedger.Url
import EventLedger.Url.Encoding
import EventLedger.Url.Host
import EventLedger.Url.Name
import EventLedger.Url.Punycode
import EventLedger.Uuid
import EventLedger.Proofs.Backoff
import EventLedger.Proofs.Batch
import EventLedger.Proofs.Batch.Judgement
import EventLedger.Proofs.EventLog.Coherence
import EventLedger.Proofs.EventLog.Commits
import EventLedger.Proofs.MemoryStorage
import EventLedger.Proofs.Updates.Scene
import EventLedger.Proofs.Updates.Outcome
import EventLedger.Proofs.Tables.Rows
import EventLedger.Proofs.Tables.Session
import EventLedger.Proofs.Tables.Attempt
import EventLedger.Proofs.Tables.Effects
import EventLedger.Proofs.Tables.Places
import EventLedger.Proofs.Tables.ExactlyOnce
import EventLedger.Proofs.Tables.Mirror
import EventLedger.Proofs.Tables.Calm
import EventLedger.Proofs.Tables.Refinement
import EventLedger.Proofs.EventLog.Bookkeeping
import EventLedger.Proofs.EventLog.Pages
import EventLedger.Proofs.EventLog.CatchUp
import EventLedger.Proofs.Orders.Rules
import EventLedger.Proofs.Orders.Lifecycle
import EventLedger.Proofs.Tables.SharedServer
import EventLedger.Proofs.Tables.Visibility
import EventLedger.Proofs.Tables.UnderLock
import EventLedger.Proofs.Tables.Paging
import EventLedger.Proofs.Tables.Traffic
import EventLedger.Proofs.Upgrades.Expansion
import EventLedger.Proofs.Orders.LegacyReplay
import EventLedger.Proofs.Updates.Provenance
import EventLedger.Proofs.Upkeep.Depot
import EventLedger.Proofs.Upkeep.Errands
import EventLedger.Proofs.Upkeep.Loads
import EventLedger.Proofs.Upkeep.Purges
import EventLedger.Proofs.Time.Deadlines
import EventLedger.Proofs.StreamCache.Record
import EventLedger.Proofs.Uuid
import EventLedger.Proofs.Json.Records
import EventLedger.Proofs.Json.Envelopes
import EventLedger.Proofs.Orders.Payloads
import EventLedger.Proofs.Snapshots.Commons
import EventLedger.Proofs.Snapshots.Regime
import EventLedger.Proofs.Snapshots.Updates
import EventLedger.Proofs.Snapshots.Intervals
import EventLedger.Proofs.Call.Trace
import EventLedger.Proofs.Upgrades.Acyclic
import EventLedger.Proofs.Reading.AtRest
import EventLedger.Proofs.Reading.LastBatch
import EventLedger.Proofs.Reading.Replay
import EventLedger.Proofs.Updates.Attempts
import EventLedger.Proofs.Updates.Retries
import EventLedger.Proofs.Updates.Rival
import EventLedger.Proofs.Updates.Rivalry
import EventLedger.Proofs.Updates.RetryLoop
import EventLedger.Proofs.Upgrades.Passes
import EventLedger.Proofs.Snapshots.Newest
import EventLedger.Proofs.Tables.Snapshots
import EventLedger.Proofs.Json.Lines
import EventLedger.Proofs.Upkeep.Commands
import EventLedger.Proofs.Upkeep.Listing
import EventLedger.Proofs.Upkeep.Renewal
import EventLedger.Proofs.Upkeep.Resumption
import EventLedger.Proofs.Tables.Trials
import EventLedger.Proofs.Tables.Settling
import EventLedger.Proofs.Metadata.Merging
import EventLedger.Proofs.Orders.ClosedForm
import EventLedger.Proofs.Orders.UnitOfWork
