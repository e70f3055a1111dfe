import DroneProtocol.Bytes.Hex
import DroneProtocol.Bytes.LittleEndian
import DroneProtocol.Bytes.Utf8
import DroneProtocol.Capture.Calendar
import DroneProtocol.Capture.Cbor
import DroneProtocol.Capture.Encoding
import DroneProtocol.Capture.Event
import DroneProtocol.Capture.File
import DroneProtocol.Capture.Rfc3339
import DroneProtocol.Capture.Time
import DroneProtocol.Codegen.Plan
import DroneProtocol.Codegen.Template
import DroneProtocol.Config.Load
import DroneProtocol.Config.Runtime
import DroneProtocol.Config.Settings
import DroneProtocol.Descriptor.Basic
import DroneProtocol.Descriptor.Command
import DroneProtocol.Descriptor.Enum
import DroneProtocol.Descriptor.Table
import DroneProtocol.Descriptor.TableError
import DroneProtocol.Dispatch.Registry
import DroneProtocol.Ieee.Binary
import DroneProtocol.Ieee.Shortest
import DroneProtocol.Ieee.Text
import DroneProtocol.Link.Interface
import DroneProtocol.Link.Status
import DroneProtocol.Logging.Level
import DroneProtocol.Logging.Record
import DroneProtocol.Main
import DroneProtocol.Metrics.Counters
import DroneProtocol.Proofs.Codegen.Identifiers
import DroneProtocol.Proofs.Codegen.Planning
import DroneProtocol.Proofs.Codegen.Helpers
import DroneProtocol.Proofs.Codegen.Denotation
import DroneProtocol.Proofs.Codegen.Descriptors
import DroneProtocol.Proofs.Codegen.Collisions
import DroneProtocol.Proofs.Descriptor.Acceptance
import DroneProtocol.Proofs.Descriptor.Filing
import DroneProtocol.Proofs.Descriptor.Index
import DroneProtocol.Proofs.Descriptor.Reachable
import DroneProtocol.Proofs.Descriptor.Registration
import DroneProtocol.Proofs.Descriptor.Reorder
import DroneProtocol.Proofs.Dispatch.ObserverIndex
import DroneProtocol.Proofs.Dispatch.Requests
import DroneProtocol.Proofs.Dispatch.Notification
import DroneProtocol.Proofs.Link.Sending
import DroneProtocol.Proofs.Schema.Compiled
import DroneProtocol.Proofs.Wire.Canonical
import DroneProtocol.Proofs.Wire.Decoded
import DroneProtocol.Proofs.Wire.Encoding
import DroneProtocol.Proofs.Wire.Layout
import DroneProtocol.Proofs.Wire.Reading
import DroneProtocol.Proofs.Wire.Reencode
import DroneProtocol.Proofs.Wire.RoundTrip
import DroneProtocol.Proofs.Wire.Walking
import DroneProtocol.Proofs.Wire.Aggregation
import DroneProtocol.Proofs.Wire.Strictness
import DroneProtocol.Render.Formatter
import DroneProtocol.Schema.Bundled
import DroneProtocol.Schema.Compile
import DroneProtocol.Schema.Definition
import DroneProtocol.Schema.Error
import DroneProtocol.Schema.Load
import DroneProtocol.Schema.Naming
import DroneProtocol.Schema.Read
import DroneProtocol.Service.Answer
import DroneProtocol.Service.Capture
import DroneProtocol.Service.Configuration
import DroneProtocol.Service.Counting
import DroneProtocol.Service.Datum
import DroneProtocol.Service.Describe
import DroneProtocol.Service.Document
import DroneProtocol.Service.Failure
import DroneProtocol.Service.Frames
import DroneProtocol.Service.Generate
import DroneProtocol.Service.Input
import DroneProtocol.Service.Multisets
import DroneProtocol.Service.Observers
import DroneProtocol.Service.Typed
import DroneProtocol.Service.View
import DroneProtocol.Source.DocComment
import DroneProtocol.Source.Layout
import DroneProtocol.Source.Scanner
import DroneProtocol.Source.Syntax
import DroneProtocol.Text.Integer
import DroneProtocol.Text.Quoted
import DroneProtocol.Text.Unicode
import DroneProtocol.Toml.Lexer
import DroneProtocol.Toml.Parser
import DroneProtocol.Toml.Scalar
import DroneProtocol.Toml.Value
import DroneProtocol.Wire.Codec
import DroneProtocol.Wire.Decode
import DroneProtocol.Wire.Error
import DroneProtocol.Wire.Frame
import DroneProtocol.Wire.Message
import DroneProtocol.Wire.Multiset
import DroneProtocol.Wire.Value
import DroneProtocol.Yaml.Decode
import DroneProtocol.Yaml.Parser
import DroneProtocol.Yaml.Scanner
import DroneProtocol.Yaml.Token
import DroneProtocol.Proofs.Wire.Depth
import DroneProtocol.Proofs.Wire.Failures
import DroneProtocol.Proofs.Text.Letters
import DroneProtocol.Proofs.Bytes.Utf8
import DroneProtocol.Proofs.Schema.Names
import DroneProtocol.Proofs.Descriptor.Paths
import DroneProtocol.Proofs.Schema.Declarations
import DroneProtocol.Proofs.Descriptor.Bitfields
import DroneProtocol.Proofs.Wire.Editing
