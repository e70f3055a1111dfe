import DroneProtocol.Service.Input
import DroneProtocol.Wire.Message

/-! # Frame requests

`encode`, `decode`, `decode_args`, `header`, `make_id` and the `format_*`
requests on single frames. -/

namespace DroneProtocol.Service

open Schema

namespace Frames

/-- Encode a command; with `roundtrip`, decode the frame back and format it. -/
def encode (c : Compiled) (req : Datum) : Outcome Datum := do
  let t := c.table
  let o ← Input.codec req
  let cmd ← Input.command t req
  let args ← Input.args t cmd.args req "args"
  let fr ← liftWire (o.encode cmd args)
  let base := [("id", .str fr.id.text), ("frame", .hex fr.bytes), ("len", .nat fr.bytes.length)]
  if req.flag "roundtrip" then
    match o.decode t.declarations cmd fr with
    | .ok vs => pure (.obj (base ++ [("decoded", View.args vs),
        ("text", .text ((Input.formatter req).message cmd vs))]))
    | .error e => pure (.obj (base ++ [("decoded", Failure.wire e)]))
  else pure (.obj base)

def argQuery (m : Message) (n : String) : Datum :=
  let v := m.arg? n
  .obj ([("arg", (v.map View.value).getD .null), ("arg_ok", .bool v.isSome),
    ("enum_ok", .bool (m.entry? n).isSome), ("multiset_ok", .bool (m.multiset? n).isSome)] ++
    (match m.entry? n with | some e => [("enum", View.entry e)] | none => []) ++
    (match m.multiset? n with
      | some ms => [("multiset", .nat ((ms.map Slots.count).getD 0))]
      | none => []))

/-- Decode a frame, by its identity or as a named command. -/
def decode (c : Compiled) (req : Datum) : Outcome Datum := do
  let t := c.table
  let o ← Input.codec req
  let bytes ← hexAt req "frame"
  let fr ← liftWire (Frame.parse bytes)
  let cmd ← match req.field? "command" with
    | some _ => Input.command t req
    | none => (t.resolve fr.id).mapError Failure.lookup
  let vs ← liftWire (o.decode t.declarations cmd fr)
  let m : Message := ⟨cmd, vs⟩
  let reencoded := match m.encode with
    | .ok f => Datum.hex f.bytes
    | .error e => Failure.wire e
  let gets := (req.field? "get").map fun names =>
    Datum.arr (names.items.filterMap Datum.str? |>.map (argQuery m))
  pure (.obj ([("command", .str cmd.name), ("id", .str fr.id.text),
    ("args", View.args vs), ("text", .text (({} : Formatter).message cmd vs)),
    ("reencode", reencoded)] ++ (gets.map fun g => [("get", g)]).getD []))

def decodeArgs (c : Compiled) (req : Datum) : Outcome Datum := do
  let t := c.table
  let o ← Input.codec req
  let cmd ← Input.command t req
  let payload ← hexAt req "payload"
  let vs ← liftWire (o.decodeArgs t.declarations cmd payload)
  pure (.obj [("args", View.args vs)])

def identityParts (id : Identity) : List (String × Datum) :=
  [("id", .str id.text), ("feature", .nat id.feature.toNat),
    ("class", .nat id.cls.toNat), ("command", .nat id.command.toNat)]

/-- Read the header of some bytes and split them into a frame. -/
def header (req : Datum) : Outcome Datum := do
  let bytes ← hexAt req "data"
  let id ← liftWire (Frame.readHeader bytes)
  let fr ← liftWire (Frame.parse bytes)
  pure (.obj (identityParts id ++
    [("payload", .hex fr.payload), ("len", .nat bytes.length), ("bytes", .hex fr.bytes)]))

def makeId (c : Compiled) (req : Datum) : Outcome Datum := do
  let id ← match req.field? "id" with
    | some j => Input.identity c.table j
    | none => pure ⟨Input.byte req "feature", Input.byte req "class",
        ((req.intAt? "command").getD 0).toNat.toUInt16⟩
  pure (.obj (identityParts id ++ [("value", .nat id.value), ("frame", .hex id.header)]))

def formatFrame (c : Compiled) (req : Datum) : Outcome Datum := do
  let t := c.table
  let o ← Input.codec req
  let bytes ← hexAt req "frame"
  let fr ← liftWire (Frame.parse bytes)
  pure (.obj [("text", .text ((Input.formatter req).frame t.declarations o (Input.resolver t req) fr))])

def formatValue (c : Compiled) (req : Datum) : Outcome Datum := do
  let a ← match req.field? "arg" with
    | some j => some <$> Input.argSpec j
    | none => pure none
  let v ← Input.valueAt c.table none req "value"
  pure (.obj [("text", .text ((Input.formatter req).value a v))])

def formatBitfield (req : Datum) : Outcome Datum := do
  let e := Input.enumTable ((req.field? "enum").getD .null)
  let bits ← Input.integer 64 false ((req.field? "bits").getD (.int 0))
  pure (.obj [("text", .str (renderBitfield e bits.toNat.toUInt64))])

end Frames

end DroneProtocol.Service
