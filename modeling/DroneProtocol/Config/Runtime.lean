import DroneProtocol.Config.Settings
import DroneProtocol.Link.Interface

/-! # Components built from settings

The operational log, the capture sinks (a file, the log, both or none) and the
command interface of a link, each built from its group of settings. -/

namespace DroneProtocol

/-- Where captured events go. -/
inductive CaptureSink where
  | nowhere
  /-- To the operational log. -/
  | console
  /-- To a capture file. -/
  | file
  /-- To a capture file and the operational log. -/
  | both
  deriving DecidableEq, Repr, Inhabited

def CaptureSink.name : CaptureSink → String
  | .nowhere => "noop"
  | .console => "slog"
  | .file => "file"
  | .both => "multi"

namespace Settings

def namedLevels : List Level := [⟨-8⟩, .debug, .info, .warn, .error, ⟨12⟩]

def logs (c : Settings) (l : Level) : Bool := c.level.value ≤ l.value

def enabledLevels (c : Settings) : List Level := namedLevels.filter c.logs

/-- What the operational log writes for a record: its line, or nothing when
its level is below the threshold. -/
def logLine (c : Settings) (r : Record) : String :=
  if c.logs r.level then r.line c.lineFormat else ""

def captureSink (c : Settings) (console : Bool) : CaptureSink :=
  match !c.capturePath.isEmpty, c.captureConsole && console with
  | true, true => .both
  | true, false => .file
  | false, true => .console
  | false, false => .nowhere

def openCapture (c : Settings) (console : Bool) (fileError : Option String) :
    Except String CaptureSink :=
  match fileError with
  | some e =>
    if c.capturePath.isEmpty then pure (c.captureSink console)
    else throw ("open capture: open " ++ c.capturePath ++ ": " ++ e)
  | none => pure (c.captureSink console)

def newInterface (c : Settings) (table : Table) (sender : Bool) (sink : CaptureSink) :
    Except LinkError Interface :=
  let metrics := if c.metricsEnabled then some (Metrics.create c.metricsNamespace) else none
  if !sender then throw .noSender
  else pure
    { registry := { table, codec := c.codecOptions, nesting := 0, journal := { metrics } },
      capturePayload := c.captureMaxPayload, captureText := c.captureText,
      capture := sink != .nowhere, console := sink = .console || sink = .both }

end Settings

end DroneProtocol
