import MarstekBle.Lib.Columns
import MarstekBle.Lib.AttributeTree
import MarstekBle.Lib.Occurrences
import MarstekBle.Lib.Dictionary
import MarstekBle.Lib.Forest
import MarstekBle.Lib.GuardedRun
import MarstekBle.Lib.BlockCode
import MarstekBle.Lib.GreedyExtraction
import MarstekBle.Lib.Channels
import MarstekBle.Lib.Redaction
import MarstekBle.Data.Bytes
import MarstekBle.Data.Text
import MarstekBle.Data.Utf8
import MarstekBle.Data.PairText
import MarstekBle.Data.Value
import MarstekBle.Schema.Model
import MarstekBle.Schema.Leaves
import MarstekBle.Schema.Totality
import MarstekBle.Schema.PathKeys
import MarstekBle.Schema.Contract
import MarstekBle.Protocol.Frame
import MarstekBle.Protocol.FrameBuffer
import MarstekBle.Protocol.Fragmentation
import MarstekBle.Protocol.Codec
import MarstekBle.Protocol.Extraction
import MarstekBle.Protocol.Residual
import MarstekBle.Product.Runtime
import MarstekBle.Product.Dispatch
import MarstekBle.Product.Venus
import MarstekBle.Product.Jupiter
import MarstekBle.Product.Registry
import MarstekBle.Product.Lawful
import MarstekBle.Product.Acceptance
import MarstekBle.Product.Contents
import MarstekBle.Product.Coherence
import MarstekBle.Product.Interleaving
import MarstekBle.Product.Reporters
import MarstekBle.Product.PacketGroups
import MarstekBle.Product.RedundantViews
import MarstekBle.Product.FlatNames
import MarstekBle.Product.TextReplies
import MarstekBle.Entities.Plan
import MarstekBle.Entities.Products
import MarstekBle.Entities.Monotone
import MarstekBle.Entities.Catalogue
import MarstekBle.Entities.Descent
import MarstekBle.Entities.Completion
import MarstekBle.Entities.Enclosures
import MarstekBle.Entities.Presence
import MarstekBle.Entities.Expansion
import MarstekBle.Entities.Replanning
import MarstekBle.Entities.Freshness
import MarstekBle.Entities.Evaluation
import MarstekBle.Entities.ControlState
import MarstekBle.Entities.Manager
import MarstekBle.Legacy.MarstekProtocol
import MarstekBle.Protocol.Receivers
import MarstekBle.Legacy.Writes
import MarstekBle.Legacy.Payloads
import MarstekBle.Legacy.Equivalence
import MarstekBle.Device.State
import MarstekBle.Device.MarstekBLEDevice
import MarstekBle.Device.Transitions
import MarstekBle.Device.Locks
import MarstekBle.Device.PendingSlot
import MarstekBle.Device.Attribution
import MarstekBle.Device.Replies
import MarstekBle.Device.Subscription
import MarstekBle.Device.Ownership
import MarstekBle.Device.IdleDisconnect
import MarstekBle.Device.Callers
import MarstekBle.Device.SerialCalls
import MarstekBle.Device.Attempts
import MarstekBle.Device.RetryLoop
import MarstekBle.Polling.Coordinator
import MarstekBle.Polling.ConfigEntry
import MarstekBle.Polling.Transitions
import MarstekBle.Polling.Turns
import MarstekBle.Polling.Backoff
import MarstekBle.Polling.Cadence
import MarstekBle.Polling.IntervalTimers
import MarstekBle.Polling.Schedule
import MarstekBle.Polling.WritePlatforms
import MarstekBle.Polling.Integration
import MarstekBle.Diagnostics.Export
import MarstekBle.Diagnostics.Noninterference
import MarstekBle.Setup.ConfigFlow
import MarstekBle.Setup.Names
import MarstekBle.Standalone.RawNames
import MarstekBle.Standalone.Discovery
import MarstekBle.Standalone.WakeUp
import MarstekBle.Standalone.Session
import MarstekBle.Standalone.ReplyMatching
import MarstekBle.Standalone.Payloads
import MarstekBle.Standalone.Collection
import MarstekBle.Standalone.SoleCaller
import MarstekBle.Standalone.Reports
import MarstekBle.Standalone.Release
import MarstekBle.Standalone.Flatten
import MarstekBle.Standalone.Summary
import MarstekBle.Standalone.Table
import MarstekBle.Standalone.Sightings
import MarstekBle.Entities.LegacyEntities
import MarstekBle.Standalone.SharedReplies
import MarstekBle.Legacy.Metadata
import MarstekBle.Entities.DeviceTree
