import DroneProtocol.Service.Datum
import DroneProtocol.Schema.Error
import DroneProtocol.Link.Interface

/-! # Failure reports

A failure is answered with its message, every kind it belongs to in one fixed
order, and the details of encoding, decoding and table failures. -/

namespace DroneProtocol

/-- The kind of a codec fault. -/
def WireFault.kind : WireFault → String
  | .malformedMultiset => "ErrMalformedMultiset" | .identityMismatch => "ErrIdentityMismatch"
  | .unknownCommand => "ErrUnknownCommand" | .unmatchedMember => "ErrUnmatchedMember"
  | .argCount => "ErrArgCount" | .argType => "ErrArgType" | .enumValue => "ErrEnumValue"
  | .invalidString => "ErrInvalidString" | .tooLarge => "ErrTooLarge"
  | .trailingBytes => "ErrTrailingBytes" | .shortPayload => "ErrShortPayload"

/-- The kind of a table fault. -/
def TableFault.kind : TableFault → String
  | .duplicateIdentity => "ErrDuplicateIdentity" | .duplicateName => "ErrDuplicateName"
  | .malformedName => "ErrMalformedName" | .inconsistentId => "ErrInconsistentID"
  | .invalidArg => "ErrInvalidArg" | .invalidEnum => "ErrInvalidEnum"
  | .invalidMultiset => "ErrInvalidMultiset"

/-- The kind of a schema fault. -/
def Schema.SchemaFault.kind : Schema.SchemaFault → String
  | .unknownType => "ErrUnknownType" | .unknownEnum => "ErrUnknownEnum"
  | .unknownMultiset => "ErrUnknownMultiset" | .unknownMember => "ErrUnknownMember"
  | .mixedLayout => "ErrMixedLayout" | .invalidOption => "ErrInvalidOption"
  | .duplicateEnum => "ErrDuplicateEnum" | .duplicateFeature => "ErrDuplicate"

namespace Service

open Schema

def kindOrder : List String :=
  ["ErrMalformedMultiset", "ErrIdentityMismatch", "ErrUnknownCommand", "ErrUnmatchedMember",
   "ErrArgCount", "ErrArgType", "ErrEnumValue", "ErrInvalidString", "ErrTooLarge",
   "ErrTrailingBytes", "ErrShortPayload", "ErrDuplicateIdentity", "ErrDuplicateName",
   "ErrMalformedName", "ErrInconsistentID", "ErrInvalidArg", "ErrInvalidEnum",
   "ErrInvalidMultiset", "ErrNotFound", "ErrUnknownType", "ErrUnknownEnum", "ErrUnknownMultiset",
   "ErrUnknownMember", "ErrMixedLayout", "ErrInvalidOption", "ErrDuplicateEnum", "ErrDuplicate",
   "ErrNoTable", "ErrNoSender", "ErrRejected", "ErrCmditfUnknownCommand", "errNameClash",
   "errRecursiveMultiset"]

def report (msg : String) (kinds : List String) (details : List (String × Datum)) : Datum :=
  let ks := kindOrder.filter (kinds.contains ·)
  .obj ([("error", .str (ks.headD "error")), ("message", .str msg), ("sentinels", .strs ks)] ++
    details)

namespace Failure

def wire (e : WireError) : Datum :=
  let ks := e.faults.map WireFault.kind
  match e with
  | .encode c i a _ => report e.message ks
      [("type", .str "wire.EncodeError"), ("index", .int i), ("arg", .str a), ("command", .str c)]
  | .decode c _ i a _ => report e.message ks
      [("type", .str "wire.DecodeError"), ("index", .int i), ("arg", .str a), ("command", .str c)]
  | .unmatched .. => report e.message ks [("type", .str "wire.UnmatchedMemberError")]
  | _ => report e.message ks []

/-- The report of a table failure. -/
def table (e : TableError) : Datum :=
  report e.message [e.fault.kind]
    [("type", .str "desc.SchemaError"), ("name", .str e.subject), ("detail", .str e.detail)]

/-- The report of a schema failure, with the stage it happened in unless
that is empty. -/
def schema (e : SchemaError) (stage : String) : Datum :=
  let base := match e with
    | .table t => table t
    | _ =>
      let ks := (e.fault?.map SchemaFault.kind).toList ++ (e.table?.map (·.fault.kind)).toList
      (report e.message ks []).set "message" (Datum.text e.bytes)
  if stage.isEmpty then base else base.set "stage" (.str stage)

def lookup (e : Table.LookupError) : Datum := report e.message ["ErrNotFound"] []

def dispatch : DispatchError → Datum
  | .frame e => wire e
  | e => report e.message (e.cause.faults.map WireFault.kind) [("type", .str "dispatch.DeliveryError")]

def outcome : Except DispatchError Unit → Datum
  | .ok _ => .null
  | .error e => dispatch e

def link : LinkError → Datum
  | .wire e => wire e
  | .dispatch e => dispatch e
  | e => report e.message [match e with
    | .noTable => "ErrNoTable" | .noSender => "ErrNoSender"
    | .rejected .. => "ErrRejected" | _ => "ErrCmditfUnknownCommand"] []

end Failure

def liftWire {α : Type} (x : Except WireError α) : Outcome α := x.mapError Failure.wire

end Service

end DroneProtocol
