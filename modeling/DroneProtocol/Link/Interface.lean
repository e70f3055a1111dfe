import DroneProtocol.Dispatch.Registry
import DroneProtocol.Capture.Event
import DroneProtocol.Link.Status
import DroneProtocol.Render.Formatter

/-! # The command interface of a link

Outbound, a command is encoded, captured and handed to the transport, whose
statuses are captured and forwarded. Inbound, bytes are parsed, captured and
delivered through the registry. Every failure is captured as an error event
with its layer and what was being done. -/

namespace DroneProtocol

/-- How the transport answers a frame handed to it. -/
inductive Reply where
  /-- The frame is refused; no status follows. -/
  | reject (reason : String)
  /-- The frame is accepted and these statuses are reported, in order. -/
  | report (statuses : List (SendStatus × Bool))
  deriving DecidableEq, Repr, Inhabited

/-- Which status function receives the reports of a command. -/
inductive StatusTarget where
  /-- The function given with the command. -/
  | own
  /-- The configured default function. -/
  | fallback
  deriving DecidableEq, Repr, Inhabited

/-- A status report as a status function received it. -/
structure StatusCall where
  target : StatusTarget
  status : SendStatus
  done : Bool
  deriving DecidableEq, Repr, Inhabited

/-- Why the command interface refused something. -/
inductive LinkError where
  /-- Encoding failed, or the received bytes are no frame. -/
  | wire (e : WireError)
  /-- A received frame could not be delivered. -/
  | dispatch (e : DispatchError)
  | noTable
  | noSender
  /-- The table lacks the command. -/
  | unknownCommand (what : String)
  /-- The transport refused the frame of a command. -/
  | rejected (command reason : String)
  deriving Repr, Inhabited

def LinkError.message : LinkError → String
  | .wire e => e.message
  | .dispatch e => e.message
  | .noTable => "cmditf: no descriptor table"
  | .noSender => "cmditf: no sender"
  | .unknownCommand w => "cmditf: command not in table: " ++ w
  | .rejected c r => "cmditf: frame rejected by transport: " ++ c ++ ": " ++ r

/-- A command interface and what it has reported. -/
structure Interface where
  registry : Registry
  /-- Payload bytes kept per captured command: zero keeps the default
  number, a negative limit keeps everything. -/
  capturePayload : Int := 0
  /-- Whether captured commands carry their formatted text. -/
  captureText : Bool := false
  /-- Whether events are captured at all. -/
  capture : Bool := true
  /-- Whether captured events are also written to the operational log. -/
  console : Bool := false
  /-- Whether a default status function is configured. -/
  fallback : Bool := false
  session : String := ""
  clock : Timestamp := .zero
  events : Array Event := #[]
  /-- Frames handed to the transport, with their buffer class. -/
  sent : Array (Frame × Delivery) := #[]
  statuses : Array StatusCall := #[]
  deriving Repr, Inhabited

abbrev LinkM := StateM Interface

namespace Interface

def onRegistry {α : Type} (x : DispatchM α) : LinkM α := fun s =>
  let (a, r) := x s.registry
  (a, { s with registry := r })

def record (e : Event) : LinkM Unit := do
  let s ← get
  if !s.capture then return
  let e := { e with time := s.clock, session := s.session }
  set { s with events := s.events.push e }
  if s.console then onRegistry (modify fun r =>
    { r with journal.records := r.journal.records.push e.record })

def captureCommand (dir : Direction) (cmd : Option Command) (f : Frame) : LinkM Unit := do
  let s ← get
  let r := s.registry
  let ev := CommandEvent.ofFrame f cmd s.capturePayload
  let ev := if s.captureText
    then { ev with text := ({} : Formatter).frame r.table.declarations r.codec r.table.findByIdentity? f }
    else ev
  record { direction := dir, layer := .transport, category := .command, command := some ev }

def captureError (dir : Direction) (layer : Layer) (command context message : String) :
    LinkM Unit :=
  record { direction := dir, layer, category := .error,
           error := some { layer, message, command, context } }

def track (cmd : Command) (target : Option StatusTarget) (st : SendStatus) (done : Bool) :
    LinkM Unit := do
  record { direction := .tx, layer := .transport, category := .sendStatus,
           status := some { id := cmd.identity, name := cmd.name, status := st.name, done } }
  if st.failed then
    onRegistry (Registry.log .warn "command not delivered"
      [("command", .text cmd.name), ("status", .text st.name)])
  if let some t := target then
    modify fun s => { s with statuses := s.statuses.push ⟨t, st, done⟩ }

/-- The status function of a command: its own if it has one, else the
default one if configured. -/
def targetOf (own : Bool) : LinkM (Option StatusTarget) := do
  if own then return some .own
  if (← get).fallback then return some .fallback
  return none

def transmit (cmd : Command) (f : Frame) (own : Bool) (reply : Reply) :
    LinkM (Except LinkError Unit) := do
  let target ← targetOf own
  captureCommand .tx (some cmd) f
  modify fun s => { s with sent := s.sent.push (f, cmd.delivery) }
  match reply with
  | .reject reason =>
    captureError .tx .transport cmd.name "send" reason
    return .error (.rejected cmd.name reason)
  | .report sts =>
    for (st, done) in sts do track cmd target st done
    return .ok ()

/-- Encode a command with its arguments and send it. -/
def send (cmd : Command) (args : List Value) (own : Bool) (reply : Reply) :
    LinkM (Except LinkError Unit) := do
  let r := (← get).registry
  match r.table.findByIdentity? cmd.identity with
  | none => return .error (.unknownCommand cmd.name)
  | some known =>
    if known.name != cmd.name then return .error (.unknownCommand cmd.name)
    match r.codec.encode cmd args with
    | .error e =>
      onRegistry (Registry.count (·.codecError "encode"))
      captureError .tx .codec cmd.name "encode" e.message
      return .error (.wire e)
    | .ok f =>
      onRegistry (Registry.count (·.encoded cmd.name))
      transmit cmd f own reply

def sendFrame (f : Frame) (own : Bool) (reply : Reply) : LinkM (Except LinkError Unit) := do
  match (← get).registry.table.findByIdentity? f.id with
  | none => return .error (.unknownCommand f.id.text)
  | some cmd => transmit cmd f own reply

def receiveFrame (f : Frame) : LinkM (Except LinkError Unit) := do
  let cmd := (← get).registry.table.findByIdentity? f.id
  captureCommand .rx cmd f
  match ← onRegistry (Registry.notify f) with
  | .ok () => return .ok ()
  | .error e =>
    let layer : Layer := match e with
      | .undelivered _ _ c => if c.faults.contains .unknownCommand then .dispatch else .codec
      | .frame _ => .dispatch
    captureError .rx layer ((cmd.map (·.name)).getD "") "deliver" e.message
    return .error (.dispatch e)

def receive (bytes : List UInt8) : LinkM (Except LinkError Unit) := do
  match Frame.parse bytes with
  | .error e =>
    onRegistry (Registry.count (·.codecError "decode"))
    captureError .rx .transport "" "parse" e.message
    return .error (.wire e)
  | .ok f => receiveFrame f

end Interface

end DroneProtocol
