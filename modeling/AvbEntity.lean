import AvbEntity.Connection.InFlight
import AvbEntity.Connection.Manager
import AvbEntity.Connection.Pdu
import AvbEntity.Connection.Relay
import AvbEntity.Connection.Talker
import AvbEntity.Descriptor.Array
import AvbEntity.Descriptor.Basic
import AvbEntity.Descriptor.Clock
import AvbEntity.Descriptor.Cluster
import AvbEntity.Descriptor.Document
import AvbEntity.Descriptor.Entity
import AvbEntity.Descriptor.Interface
import AvbEntity.Descriptor.Kind
import AvbEntity.Descriptor.Limits
import AvbEntity.Descriptor.Localization
import AvbEntity.Descriptor.Mapping
import AvbEntity.Descriptor.Stream
import AvbEntity.Descriptor.Unit
import AvbEntity.Discovery.Advertiser
import AvbEntity.Discovery.Pdu
import AvbEntity.Document.Form
import AvbEntity.Document.Json.Reader
import AvbEntity.Document.Json.Token
import AvbEntity.Document.Magnitude
import AvbEntity.Document.Toml.Quoted
import AvbEntity.Document.Toml.Reader
import AvbEntity.Document.Toml.Scalar
import AvbEntity.Document.Toml.Table
import AvbEntity.Document.Value
import AvbEntity.Endpoint.Basic
import AvbEntity.Endpoint.Session
import AvbEntity.Endpoint.Streams
import AvbEntity.Enumeration.Pdu
import AvbEntity.Enumeration.Responder
import AvbEntity.Ethernet.Cable
import AvbEntity.Ethernet.Frame
import AvbEntity.Ethernet.Link
import AvbEntity.Identifier.Eui64
import AvbEntity.Identifier.Mac
import AvbEntity.Identifier.Spelling
import AvbEntity.Model.Basic
import AvbEntity.Model.Build
import AvbEntity.Model.Stream
import AvbEntity.Model.Tree
import AvbEntity.Octets
import AvbEntity.Settings.Basic
import AvbEntity.Settings.Document
import AvbEntity.Settings.File
import AvbEntity.Settings.Location
import AvbEntity.Text.Blank
import AvbEntity.Text.Hex
import AvbEntity.Text.Utf8
import AvbEntity.Time
import AvbEntity.Wire.Control
import AvbEntity.Wire.Error
import AvbEntity.Wire.Layout
import AvbEntity.Proofs.Connection.Codec
import AvbEntity.Proofs.Connection.InFlight
import AvbEntity.Proofs.Connection.Relay
import AvbEntity.Proofs.Model.Streams
import AvbEntity.Proofs.Endpoint.Run
import AvbEntity.Proofs.Connection.Manager
import AvbEntity.Proofs.Connection.Talker
import AvbEntity.Proofs.Endpoint.Conservation
import AvbEntity.Proofs.Model.Build
import AvbEntity.Proofs.Connection.Retransmission
import AvbEntity.Proofs.Endpoint.Exclusivity
import AvbEntity.Proofs.Endpoint.Listeners
import AvbEntity.Proofs.Connection.Agreement
import AvbEntity.Proofs.Endpoint.Loopback
import AvbEntity.Proofs.Connection.Numbering
import AvbEntity.Proofs.Connection.Correlation
import AvbEntity.Proofs.Text.Utf8
import AvbEntity.Proofs.Wire.Layout
import AvbEntity.Proofs.Descriptor.Normal
import AvbEntity.Proofs.Descriptor.Codec
import AvbEntity.Proofs.Model.Numbering
import AvbEntity.Proofs.Model.Built
import AvbEntity.Proofs.Enumeration.Codec
import AvbEntity.Proofs.Enumeration.Reading
import AvbEntity.Proofs.Enumeration.Answer
import AvbEntity.Proofs.Model.Derivation
import AvbEntity.Proofs.Discovery.Announcement
import AvbEntity.Proofs.Connection.Range
import AvbEntity.Proofs.Endpoint.StreamCounts
import AvbEntity.Proofs.Wire.Window
import AvbEntity.Proofs.Enumeration.Declared
import AvbEntity.Proofs.Endpoint.Within
import AvbEntity.Proofs.Endpoint.Ignored
import AvbEntity.Proofs.Endpoint.Independence
import AvbEntity.Proofs.Model.Frame
import AvbEntity.Proofs.Connection.Sides
import AvbEntity.Proofs.Endpoint.Isolation
import AvbEntity.Proofs.Discovery.Run
import AvbEntity.Proofs.Discovery.Causes
import AvbEntity.Proofs.Discovery.Freshness
import AvbEntity.Proofs.Discovery.Lifetime
import AvbEntity.Proofs.Discovery.Leaving
import AvbEntity.Proofs.Endpoint.Advertising
import AvbEntity.Proofs.Endpoint.Shutdown
import AvbEntity.Proofs.Wire.Restoring
import AvbEntity.Proofs.Wire.Plan
import AvbEntity.Proofs.Descriptor.Plan
import AvbEntity.Proofs.Descriptor.Delimited
import AvbEntity.Proofs.Descriptor.Violations
import AvbEntity.Proofs.Model.Violations
import AvbEntity.Proofs.Connection.Rejection
import AvbEntity.Proofs.Endpoint.Restoration
import AvbEntity.Proofs.Text.Hex
import AvbEntity.Proofs.Document.Form
import AvbEntity.Proofs.Identifier.Reading
import AvbEntity.Proofs.Identifier.Spelling
import AvbEntity.Proofs.Descriptor.Document
import AvbEntity.Proofs.Model.Document
import AvbEntity.Proofs.Wire.Bits
import AvbEntity.Proofs.Wire.Inverse
import AvbEntity.Proofs.Connection.Answers
import AvbEntity.Proofs.Endpoint.Answers
import AvbEntity.Proofs.Connection.Slots
import AvbEntity.Proofs.Connection.Expiry
import AvbEntity.Proofs.Model.Rebuild
import AvbEntity.Proofs.Identifier.Acceptance
