import DroneProtocol.Service.Observers
import DroneProtocol.Service.Capture
import DroneProtocol.Config.Load
import DroneProtocol.Config.Runtime

/-! # Configuration requests

`config` loads the settings from a TOML file and environment variables, or
the defaults, and reports them with the log, the capture and, with
`interface`, a command interface built from them. -/

namespace DroneProtocol.Service

open Schema

namespace Configuration

/-- The settings a request overrides, by the names it uses. -/
def overrides : List (String × Setting) :=
  [("strings", .strings), ("max_payload_size", .maxPayloadSize), ("level", .logLevel),
   ("format", .logFormat), ("console", .captureConsole), ("text", .captureText),
   ("max_payload", .captureMaxPayload)]

def valueOf (s : Setting) (j : Datum) : Option SettingValue :=
  match s.kind with
  | .text => SettingValue.text <$> j.str?
  | .integer => SettingValue.integer <$> j.int?
  | .flag => SettingValue.flag <$> j.bool?

def override (set : Datum) (c : Settings) : Settings :=
  overrides.foldl (fun c (name, s) =>
    match (set.field? name).bind (valueOf s) with
    | some v => c.set s v
    | none => c) c

def settingView : SettingValue → Datum
  | .text s => .str s
  | .integer i => .int i
  | .flag b => .bool b

def settingsView (c : Settings) : Datum :=
  .obj (settingGroups.map fun g =>
    (g, .obj ((Setting.inGroup g).map fun s => (s.key, settingView (c.get s)))))

def codecView (o : CodecOptions) : Datum :=
  .obj [("strings", .str o.strings.name), ("max_payload_size", .int o.maxPayload),
    ("strict_multiset", .bool o.strictMultiset)]

/-- The sample warning the operational log is tried with. -/
def sample : Record := ⟨.warn, "sample", [("k", .text "v w"), ("n", .int 3)]⟩

def loggerView (c : Settings) : Datum :=
  .obj [("enabled", .strs (c.enabledLevels.map (·.name))), ("line", .str (c.logLine sample))]

/-- Why the capture path cannot be created, if it cannot: a scratch path can
be, a path under a missing directory cannot, and another path can when it is
relative to the working directory or in the scratch area. -/
def pathError (path : String) : Option String :=
  let dir := String.ofList ((path.toList.reverse.dropWhile (· ≠ '/')).reverse)
  if dir.isEmpty || dir = "/tmp/" || dir = "./" then none
  else some "no such file or directory"

def withCapturePath (req : Datum) (c : Settings) : Settings × Option String :=
  if req.flag "capture_bad_path" then
    ({ c with capturePath := "missing/capture.alog" }, some "no such file or directory")
  else if req.flag "capture_file" then ({ c with capturePath := "capture.alog" }, none)
  else (c, if c.capturePath.isEmpty then none else pathError c.capturePath)

def resultView (r : Except LinkError Unit) : Datum :=
  match r with
  | .ok () => .null
  | .error e => Failure.link e

/-- The transport: every frame is sent, then acknowledged. -/
def acknowledging : Reply := .report [(SendStatus.sent, false), (SendStatus.ackReceived, true)]

/-- Run the interface built from the settings through its three operations. -/
def interfaceRun (c : Compiled) (s : Settings) (fileError : Option String) (req : Datum) :
    Outcome Datum := do
  match s.openCapture true fileError with
  | .error m => pure (report m [] [])
  | .ok sink =>
    match s.newInterface c.table (!req.flag "interface_no_sender") sink with
    | .error e => pure (Failure.link e)
    | .ok itf =>
      let takeOff ← (c.table.lookup "ardrone3.Piloting.TakeOff").mapError Failure.lookup
      let productName ← (c.table.lookup "common.Settings.ProductName").mapError Failure.lookup
      let run : LinkM (Except LinkError Unit × Except LinkError Unit × Except LinkError Unit) := do
        let a ← Interface.send takeOff [] false acknowledging
        let b ← Interface.send productName [.text (Utf8.encode "nul")] false acknowledging
        let r ← Interface.receive [0x00, 0x05, 0x01, 0x00, 0x2A]
        pure (a, b, r)
      let ((a, b, r), itf) := run itf
      let captured := if sink = .file || sink = .both then
          let (events, err) := CaptureFile.read {} (itf.events.toList.flatMap Event.encode)
          [("captured", Datum.arr (events.map View.event)),
           ("read_error", (err.map Capture.failure).getD .null)]
        else []
      pure (.obj ([("send", resultView a), ("send_name", resultView b), ("receive", resultView r),
        ("sent", .arr (itf.sent.toList.map Observers.sentView)),
        ("logs", .arr (itf.registry.journal.records.toList.map View.record))] ++ captured))

/-- The environment a request gives. -/
def environment (req : Datum) : List (String × String) :=
  ((req.field? "env").map Datum.fields).getD [] |>.map fun (k, v) => (k, v.str?.getD "")

/-- Answer a configuration request. -/
def run (c : Compiled) (req : Datum) : Outcome Datum := do
  let load := Settings.load ((req.field? "toml").bind Datum.str?) (environment req)
  let loaded ← if req.flag "default" then pure ({} : Settings)
    else load.mapError fun m => report m [] []
  let s := match req.field? "set" with
    | some set => override set loaded
    | none => loaded
  let (withPath, fileError) := withCapturePath req s
  let base := [("config", settingsView s), ("codec_options", codecView s.codecOptions),
    ("validate", match s.validate with
      | .ok () => .null
      | .error m => report m [] []),
    ("metrics_enabled", .bool s.metricsEnabled)]
  let logger := if req.flag "logger" then [("logger", loggerView s)] else []
  let tail ← if req.flag "interface" then do
      pure [("interface", ← interfaceRun c withPath fileError req)]
    else pure [("capture", match withPath.openCapture true fileError with
      | .ok sink => .str sink.name
      | .error m => report m [] [])]
  pure (.obj (base ++ logger ++ tail))

end Configuration

end DroneProtocol.Service
