import DroneProtocol.Capture.Encoding

/-! # Capture files

A capture file is a stream of event items. A writer appends events until it is
closed; a reader reads them back in order up to the end or the first bytes
that are no event, and keeps those a filter selects. -/

namespace DroneProtocol

/-- Which events a reader keeps. -/
structure Filter where
  session : String := ""
  direction : Option Direction := none
  layer : Option Layer := none
  category : Option Category := none
  feature : Option UInt8 := none
  command : Option Identity := none
  /-- Keep events at or after this instant. -/
  start : Option Timestamp := none
  /-- Keep events strictly before this instant. -/
  stop : Option Timestamp := none
  deriving DecidableEq, Repr, Inhabited

def Event.commandId? (e : Event) : Option Identity :=
  match e.command, e.status with
  | some c, _ => some c.id
  | none, some s => some s.id
  | none, none => none

namespace Filter

/-- Whether a filter keeps an event. -/
def keeps (f : Filter) (e : Event) : Bool :=
  (f.session.isEmpty || e.session == f.session) &&
  (f.direction.all (· == e.direction)) &&
  (f.layer.all (· == e.layer)) &&
  (f.category.all (· == e.category)) &&
  (f.start.all fun t => !e.time.before t) &&
  (f.stop.all fun t => e.time.before t) &&
  (if f.feature.isNone && f.command.isNone then true
   else match e.commandId? with
     | none => false
     | some id => f.feature.all (· == id.feature) && f.command.all (· == id))

end Filter

/-- A capture file being written. -/
structure CaptureFile where
  bytes : List UInt8 := []
  closed : Bool := false
  deriving DecidableEq, Repr, Inhabited

namespace CaptureFile

def log (f : CaptureFile) (e : Event) : CaptureFile :=
  if f.closed then f else { f with bytes := f.bytes ++ e.encode }

def close (f : CaptureFile) : CaptureFile := { f with closed := true }

/-- The events of the file that a filter keeps, and the failure that ended
reading early, if any. -/
def read (f : Filter) (bytes : List UInt8) : List Event × Option Cbor.Failure :=
  let (events, failure) := Event.readStream bytes
  (events.filter f.keeps, failure)

end CaptureFile

end DroneProtocol
