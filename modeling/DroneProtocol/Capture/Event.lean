import DroneProtocol.Wire.Frame
import DroneProtocol.Capture.Time
import DroneProtocol.Logging.Record

/-! # Captured events

An event is a frame sent or received, a status report of the transport or a
failure, with its direction, layer and category. It carries exactly the one
record its category calls for. -/

namespace DroneProtocol

/-- Which way a captured command went. -/
structure Direction where
  code : UInt8
  deriving DecidableEq, Repr, Inhabited

namespace Direction

def rx : Direction := ⟨0⟩

def tx : Direction := ⟨1⟩

/-- The name of a direction. -/
def name (d : Direction) : String :=
  match d.code with
  | 0 => "RX" | 1 => "TX" | _ => "UNKNOWN"

end Direction

/-- Where an event was taken. -/
structure Layer where
  code : UInt8
  deriving DecidableEq, Repr, Inhabited

namespace Layer

/-- The raw frame as handed to or received from the transport. -/
def transport : Layer := ⟨0⟩

def codec : Layer := ⟨1⟩

def dispatch : Layer := ⟨2⟩

/-- The name of a layer. -/
def name (l : Layer) : String :=
  match l.code with
  | 0 => "TRANSPORT" | 1 => "CODEC" | 2 => "DISPATCH" | _ => "UNKNOWN"

end Layer

/-- What an event records. -/
structure Category where
  code : UInt8
  deriving DecidableEq, Repr, Inhabited

namespace Category

/-- A command frame. -/
def command : Category := ⟨0⟩

def sendStatus : Category := ⟨1⟩

def error : Category := ⟨2⟩

/-- The name of a category. -/
def name (c : Category) : String :=
  match c.code with
  | 0 => "COMMAND" | 1 => "SEND_STATUS" | 2 => "ERROR" | _ => "UNKNOWN"

end Category

/-- A captured command frame. -/
structure CommandEvent where
  id : Identity
  /-- The full command name, empty when the identity is unknown. -/
  name : String := ""
  /-- The frame size in bytes, header included. -/
  size : Int := 0
  /-- The first bytes of the payload. -/
  payload : List UInt8 := []
  truncated : Bool := false
  buffer : Delivery := .nonAck
  /-- The formatted command, when the capturing side formats; the bytes need
  not be UTF-8. -/
  text : List UInt8 := []
  deriving DecidableEq, Repr, Inhabited

def defaultMaxPayload : Nat := 256

/-- Capture a frame, keeping at most `max` payload bytes: zero keeps the
default number, a negative limit keeps everything. -/
def CommandEvent.ofFrame (f : Frame) (cmd : Option Command) (max : Int) : CommandEvent :=
  let limit : Int := if max = 0 then defaultMaxPayload else max
  let cut := decide (limit > 0) && decide ((f.payload.length : Int) > limit)
  { id := f.id, size := f.size,
    name := (cmd.map (·.name)).getD "",
    buffer := (cmd.map (·.delivery)).getD .nonAck,
    payload := if cut then f.payload.take limit.toNat else f.payload,
    truncated := cut }

/-- A captured status report of the transport. -/
structure StatusEvent where
  id : Identity
  name : String := ""
  status : String := ""
  /-- Whether this is the last status of the command. -/
  done : Bool := false
  deriving DecidableEq, Repr, Inhabited

/-- A captured failure. -/
structure ErrorEvent where
  layer : Layer
  message : String
  /-- The command involved, if known. -/
  command : String := ""
  /-- What was being done. -/
  context : String := ""
  deriving DecidableEq, Repr, Inhabited

/-- One captured occurrence. -/
structure Event where
  time : Timestamp := .zero
  session : String := ""
  direction : Direction := .rx
  layer : Layer := .transport
  category : Category := .command
  command : Option CommandEvent := none
  status : Option StatusEvent := none
  error : Option ErrorEvent := none
  deriving DecidableEq, Repr, Inhabited

/-- The debug record an event becomes on an operational log. -/
def Event.record (e : Event) : Record :=
  let base : List (String × AttrValue) := [("session", .text e.session),
    ("direction", .text e.direction.name), ("layer", .text e.layer.name),
    ("category", .text e.category.name)]
  let more : List (String × AttrValue) := match e.command, e.status, e.error with
    | some c, _, _ =>
      let text := String.ofList (Utf8.chars c.text)
      [("id", .text c.id.text), ("size", .int c.size), ("buffer", .text c.buffer.name)] ++
        (if c.name.isEmpty then [] else [("command", .text c.name)]) ++
        (if text.isEmpty then [] else [("text", .text text)]) ++
        (if c.truncated then [("truncated", .bool true)] else [])
    | none, some s, _ =>
      [("id", .text s.id.text), ("command", .text s.name), ("status", .text s.status),
        ("done", .bool s.done)]
    | none, none, some er =>
      [("error_layer", .text er.layer.name), ("error", .text er.message)] ++
        (if er.command.isEmpty then [] else [("command", .text er.command)]) ++
        (if er.context.isEmpty then [] else [("context", .text er.context)])
    | none, none, none => []
  ⟨.debug, "capture", base ++ more⟩

end DroneProtocol
