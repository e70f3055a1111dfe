/-! # Instants with a zone offset

An instant is a count of seconds since 1970-01-01T00:00:00 UTC, a count of
nanoseconds within the second, and the offset of the zone it is shown in, in
seconds east of UTC. The offset only changes how the instant is written. The
zero instant is the first second of year 1, in UTC.
-/

namespace DroneProtocol

/-- An instant, with the zone offset it is shown in. -/
structure Timestamp where
  seconds : Int
  nanos : Nat
  offset : Int
  deriving DecidableEq, Repr, Inhabited

namespace Timestamp

/-- The first second of year 1, in UTC. -/
def zero : Timestamp := ⟨-62135596800, 0, 0⟩

def before (a b : Timestamp) : Bool :=
  a.seconds < b.seconds || (a.seconds == b.seconds && a.nanos < b.nanos)

end Timestamp

end DroneProtocol
