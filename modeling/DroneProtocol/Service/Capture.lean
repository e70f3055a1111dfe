import DroneProtocol.Service.Input
import DroneProtocol.Capture.File

/-! # Capture requests

`capture` writes events to a capture file and reads them back through a
filter, `decode_event` decodes one event, and `command_event` captures one
frame. -/

namespace DroneProtocol.Service

open Schema

namespace Capture

def identityOf (j : Datum) : Identity :=
  match j with
  | .str s => Identity.ofValue ((Numeral.nat? 0 32 s).getD 0)
  | j => Identity.ofValue (j.int?.getD 0).toNat

def timeOf (j : Datum) (k : String) : Outcome Timestamp :=
  match (j.field? k).bind Datum.str? with
  | none => pure .zero
  | some s => (Timestamp.read s).mapError fun m => report m [] []

def eventOf (j : Datum) : Outcome Event := do
  let command := (j.field? "command").map fun c =>
    ({ id := identityOf ((c.field? "id").getD .null), name := c.string "name",
       size := (c.intAt? "size").getD 0, payload := ((c.field? "payload").bind Datum.str? |>.bind Hex.decode?).getD [],
       truncated := c.flag "truncated", buffer := Delivery.ofCode (Input.byte c "buffer"),
       text := Utf8.encode (c.string "text") } : CommandEvent)
  let status := (j.field? "send_status").map fun s =>
    ({ id := identityOf ((s.field? "id").getD .null), name := s.string "name",
       status := s.string "status", done := s.flag "done" } : StatusEvent)
  let error := (j.field? "error").map fun r =>
    ({ layer := ⟨Input.byte r "layer"⟩, message := r.string "message", command := r.string "command",
       context := r.string "context" } : ErrorEvent)
  pure { time := ← timeOf j "timestamp", session := j.string "session",
         direction := ⟨Input.byte j "direction"⟩, layer := ⟨Input.byte j "layer"⟩,
         category := ⟨Input.byte j "category"⟩, command, status, error }

def filterOf (j : Datum) : Outcome Filter := do
  let start ← if j.has "time_start" then some <$> timeOf j "time_start" else pure none
  let stop ← if j.has "time_end" then some <$> timeOf j "time_end" else pure none
  pure { session := j.string "session",
         direction := (j.intAt? "direction").map fun n => ⟨n.toNat.toUInt8⟩,
         layer := (j.intAt? "layer").map fun n => ⟨n.toNat.toUInt8⟩,
         category := (j.intAt? "category").map fun n => ⟨n.toNat.toUInt8⟩,
         feature := (j.intAt? "feature").map (·.toNat.toUInt8),
         command := (j.field? "command").map identityOf, start, stop }

def failure (e : Cbor.Failure) : Datum := report e.message [] []

def decoded (r : Cbor.Decoded Event) : Datum :=
  match r with
  | .ok e => View.stampedEvent e
  | .error e => failure e

def run (req : Datum) : Outcome Datum := do
  let events ← (req.list "events").mapM eventOf
  let encoded := events.map fun e =>
    let bs := e.encode
    Datum.obj [("cbor", .hex bs), ("decoded", decoded (Event.decode bs))]
  let closeAt := (req.intAt? "close_after").map (·.toNat)
  let file := events.zipIdx.foldl (fun (f : CaptureFile) (e, i) =>
    let f := if closeAt == some i then f.close else f
    f.log e) {}
  let bytes := file.bytes ++ (((req.field? "raw_append").bind Datum.str?).bind Hex.decode?).getD []
  let filter ← match req.field? "filter" with
    | some f => filterOf f
    | none => pure {}
  let (read, err) := CaptureFile.read filter bytes
  pure (.obj ([("encoded", .arr encoded), ("failed", .nat 0),
    ("read", .arr (read.map View.stampedEvent)), ("read_error", (err.map failure).getD .null)] ++
    (if req.flag "slog" then [("slog", .arr (events.map fun e => View.record e.record))] else [])))

def decodeEvent (req : Datum) : Outcome Datum := do
  pure (decoded (Event.decode (← hexAt req "cbor")))

def commandEvent (c : Compiled) (req : Datum) : Outcome Datum := do
  let id := identityOf ((req.field? "id").getD .null)
  let cmd ← match req.field? "command" with
    | some _ => some <$> Input.command c.table req
    | none => pure none
  let f : Frame := ⟨id, ← hexAt req "payload"⟩
  pure (View.commandEvent (CommandEvent.ofFrame f cmd ((req.intAt? "max").getD 0)))

end Capture

end DroneProtocol.Service
