import DroneProtocol.Service.Frames
import DroneProtocol.Service.Describe
import DroneProtocol.Service.Multisets
import DroneProtocol.Service.Observers
import DroneProtocol.Service.Capture
import DroneProtocol.Service.Counting
import DroneProtocol.Service.Typed
import DroneProtocol.Service.Configuration
import DroneProtocol.Service.Generate
import DroneProtocol.Service.Document

/-! # Answering requests

A request names its operation under `op`. Operations that work on a table
first compile the schema the request names, or take the bundled table;
a schema that fails to compile is answered with its failure. Every
operation answers a document: its result, or the report of its failure.
-/

namespace DroneProtocol.Service

open Schema

def tableOps : List String :=
  ["encode", "decode", "decode_args", "format_frame", "format_value", "make_id",
    "lookup", "multiset", "decode_multiset", "walk_multiset", "dispatch", "cmditf"]

/-- The answer to a request, given the bundled table. -/
def respond (bundled : Except SchemaError Compiled) (req : Datum) : Outcome Datum := do
  let op := req.string "op"
  let c ← if tableOps.contains op then Input.schema req bundled "schema" "schema"
    else bundled.mapError (Failure.schema · "schema")
  match op with
  | "encode" => Frames.encode c req
  | "decode" => Frames.decode c req
  | "decode_args" => Frames.decodeArgs c req
  | "header" => Frames.header req
  | "make_id" => Frames.makeId c req
  | "format_frame" => Frames.formatFrame c req
  | "format_value" => Frames.formatValue c req
  | "format_bitfield" => Frames.formatBitfield req
  | "compile" => Describe.compileSchema c req
  | "table" => Describe.table req
  | "lookup" => Describe.lookup c req
  | "command_info" => Describe.commandInfo req
  | "enum" => Describe.enum req
  | "names" => Describe.names req
  | "features_info" => Describe.featuresInfo c
  | "multiset" => Multisets.script c req
  | "decode_multiset" => Multisets.decode c req
  | "walk_multiset" => Multisets.walk c req
  | "dispatch" => Observers.dispatch c req
  | "cmditf" => Observers.link c req
  | "capture" => Capture.run req
  | "decode_event" => Capture.decodeEvent req
  | "command_event" => Capture.commandEvent c req
  | "metrics" => pure (Counting.run req)
  | "typed" => Typed.run c req
  | "config" => Configuration.run c req
  | "generate" => Generate.run c req
  | "cli" => pure (Generate.cli req)
  | _ => refuse ("op " ++ op)

def answer (bundled : Except SchemaError Compiled) (req : Datum) : Datum :=
  match respond bundled req with
  | .ok d => d
  | .error d => d

/-- The answer to a request line: the answer to the document it holds, or
the report of a line that is not a document. -/
def answerLine (bundled : Except SchemaError Compiled) (line : String) : Datum :=
  match Document.read line with
  | .ok req => answer bundled req
  | .error e => .obj [("error", .str "bad_input"), ("message", .str ("invalid JSON: " ++ e))]

end DroneProtocol.Service
