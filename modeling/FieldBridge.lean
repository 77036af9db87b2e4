import FieldBridge.Association
import FieldBridge.Attribute
import FieldBridge.Bridge.Basic
import FieldBridge.Bridge.Clock
import FieldBridge.Bridge.Lifecycle
import FieldBridge.Broker.Address
import FieldBridge.Broker.Gate
import FieldBridge.Broker.Ipv6
import FieldBridge.Broker.Memory
import FieldBridge.Broker.Mqtt
import FieldBridge.Broker.Record
import FieldBridge.Broker.Topic
import FieldBridge.Cbor.Item
import FieldBridge.Cbor.Reader
import FieldBridge.Config
import FieldBridge.Domain.Canonical
import FieldBridge.Domain.Direction
import FieldBridge.Domain.Joiner
import FieldBridge.Domain.Mapping
import FieldBridge.Domain.Name
import FieldBridge.Domain.Punycode
import FieldBridge.Domain.Table
import FieldBridge.Event
import FieldBridge.Format
import FieldBridge.Guid
import FieldBridge.Json.Reader
import FieldBridge.Json.Token
import FieldBridge.Json.Value
import FieldBridge.Listener.Registry
import FieldBridge.Listener.Script
import FieldBridge.Main
import FieldBridge.Message.Basic
import FieldBridge.Message.Codec
import FieldBridge.Node.Id
import FieldBridge.Node.Status
import FieldBridge.Notice
import FieldBridge.Number.Decimal
import FieldBridge.Number.Shortest
import FieldBridge.Pipeline
import FieldBridge.Proofs.Bridge.Change
import FieldBridge.Proofs.Bridge.Deadline
import FieldBridge.Proofs.Bridge.Idle
import FieldBridge.Proofs.Bridge.Lifecycle
import FieldBridge.Proofs.Bridge.Listeners
import FieldBridge.Proofs.Bridge.Overlap
import FieldBridge.Proofs.Bridge.Polling
import FieldBridge.Proofs.Bridge.Publication
import FieldBridge.Proofs.Bridge.Reporting
import FieldBridge.Proofs.Bridge.Work
import FieldBridge.Proofs.Broker.Acknowledgement
import FieldBridge.Proofs.Broker.Address
import FieldBridge.Proofs.Broker.Agreement
import FieldBridge.Proofs.Broker.History
import FieldBridge.Proofs.Broker.Key
import FieldBridge.Proofs.Broker.Level
import FieldBridge.Proofs.Broker.Memory
import FieldBridge.Proofs.Cbor.Prefix
import FieldBridge.Proofs.Cbor.RoundTrip
import FieldBridge.Proofs.Config.Loading
import FieldBridge.Proofs.Config.NodeList
import FieldBridge.Proofs.Guid
import FieldBridge.Proofs.Json.Numbers
import FieldBridge.Proofs.Json.Prefix
import FieldBridge.Proofs.Json.RoundTrip
import FieldBridge.Proofs.Json.Strings
import FieldBridge.Proofs.Listener.Books
import FieldBridge.Proofs.Listener.Delivery
import FieldBridge.Proofs.Listener.Registry
import FieldBridge.Proofs.Message.Delimiting
import FieldBridge.Proofs.Message.Members
import FieldBridge.Proofs.Message.RoundTrip
import FieldBridge.Proofs.Node.Grammar
import FieldBridge.Proofs.Node.RoundTrip
import FieldBridge.Proofs.Number.Decimal
import FieldBridge.Proofs.Pipeline
import FieldBridge.Proofs.Server.Items
import FieldBridge.Proofs.Sink.Balance
import FieldBridge.Proofs.Sink.Custody
import FieldBridge.Proofs.Sink.IdleWatch
import FieldBridge.Proofs.Sink.Outbox
import FieldBridge.Proofs.Sink.Partitions
import FieldBridge.Proofs.Sink.Publishing
import FieldBridge.Proofs.Sink.Refinement
import FieldBridge.Proofs.Source.Announcement
import FieldBridge.Proofs.Source.Books
import FieldBridge.Proofs.Source.Calls
import FieldBridge.Proofs.Source.Deletions
import FieldBridge.Proofs.Source.Denotation
import FieldBridge.Proofs.Source.Entries
import FieldBridge.Proofs.Source.Log
import FieldBridge.Proofs.Source.MonitoredSet
import FieldBridge.Proofs.Source.Polling
import FieldBridge.Proofs.Source.Reading
import FieldBridge.Proofs.Source.Reservations
import FieldBridge.Proofs.Source.Sessions
import FieldBridge.Proofs.Source.Spelling
import FieldBridge.Proofs.Source.Teardown
import FieldBridge.Proofs.Source.Traffic
import FieldBridge.Proofs.Text.Base64
import FieldBridge.Proofs.Text.Cut
import FieldBridge.Proofs.Text.Utf8
import FieldBridge.Proofs.Time.RoundTrip
import FieldBridge.Proofs.Wire.Routing
import FieldBridge.Proofs.Wire.Sessions
import FieldBridge.Server.Link
import FieldBridge.Server.Protocol
import FieldBridge.Server.Table
import FieldBridge.Sink.InFlight
import FieldBridge.Sink.Outbox
import FieldBridge.Sink.Publish
import FieldBridge.Source.Client
import FieldBridge.Source.Connection
import FieldBridge.Source.Manager
import FieldBridge.Source.Poller
import FieldBridge.Source.Reader
import FieldBridge.Source.Task
import FieldBridge.Text.Base64
import FieldBridge.Text.Blank
import FieldBridge.Text.Hex
import FieldBridge.Text.Utf8
import FieldBridge.Time.Date
import FieldBridge.Time.Instant
import FieldBridge.Value
import FieldBridge.Wire.Routes
import FieldBridge.Wire.Session
import FieldBridge.Wire.Variant
