/-! # Delivery status of a sent command

A transport reports the progress of each frame it accepted: sent on the link,
acknowledged by the peer, timed out, or dropped before sending. A status is a
byte; codes past the four known ones are carried as they are and print as
unknown.
-/

namespace DroneProtocol

/-- The progress of a sent command as the transport reports it. -/
structure SendStatus where
  code : UInt8
  deriving DecidableEq, Repr, Inhabited

namespace SendStatus

/-- The frame went out on the link. -/
def sent : SendStatus := ⟨0⟩

def ackReceived : SendStatus := ⟨1⟩

def timeout : SendStatus := ⟨2⟩

def canceled : SendStatus := ⟨3⟩

def name (s : SendStatus) : String :=
  match s.code with
  | 0 => "SENT" | 1 => "ACK_RECEIVED" | 2 => "TIMEOUT" | 3 => "CANCELED"
  | _ => "UNKNOWN"

/-- Whether the status means the command did not reach the peer. -/
def failed (s : SendStatus) : Bool := s == timeout || s == canceled

end SendStatus

end DroneProtocol
