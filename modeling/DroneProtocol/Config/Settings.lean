import DroneProtocol.Wire.Codec
import DroneProtocol.Logging.Record
import DroneProtocol.Text.Unicode

/-! # Runtime settings

Eleven settings in four groups (codec, capture, log, metrics), each text, an
integer or a truth value, with their defaults. Every inconsistency between
them is reported, one line each. -/

namespace DroneProtocol

/-- The type of a setting. -/
inductive SettingKind where
  | text | integer | flag
  deriving DecidableEq, Repr, Inhabited

/-- The value of a setting. -/
inductive SettingValue where
  | text (s : String)
  | integer (i : Int)
  | flag (b : Bool)
  deriving DecidableEq, Repr, Inhabited

/-- The settings, one constructor each. -/
inductive Setting where
  | strings
  | maxPayloadSize
  | strictMultiset
  | capturePath
  | captureConsole
  | captureMaxPayload
  | captureText
  | logLevel
  | logFormat
  | metricsEnabled
  | metricsNamespace
  deriving DecidableEq, Repr, Inhabited

namespace Setting

def all : List Setting :=
  [strings, maxPayloadSize, strictMultiset, capturePath, captureConsole, captureMaxPayload,
   captureText, logLevel, logFormat, metricsEnabled, metricsNamespace]

/-- The group of a setting. -/
def group : Setting → String
  | strings | maxPayloadSize | strictMultiset => "codec"
  | capturePath | captureConsole | captureMaxPayload | captureText => "capture"
  | logLevel | logFormat => "log"
  | metricsEnabled | metricsNamespace => "metrics"

def key : Setting → String
  | strings => "strings"
  | maxPayloadSize => "max_payload_size"
  | strictMultiset => "strict_multiset"
  | capturePath => "path"
  | captureConsole => "console"
  | captureMaxPayload => "max_payload"
  | captureText => "text"
  | logLevel => "level"
  | logFormat => "format"
  | metricsEnabled => "enabled"
  | metricsNamespace => "namespace"

def fieldName : Setting → String
  | strings => "Strings"
  | maxPayloadSize => "MaxPayloadSize"
  | strictMultiset => "StrictMultiset"
  | capturePath => "Path"
  | captureConsole => "Console"
  | captureMaxPayload => "MaxPayload"
  | captureText => "Text"
  | logLevel => "Level"
  | logFormat => "Format"
  | metricsEnabled => "Enabled"
  | metricsNamespace => "Namespace"

def kind : Setting → SettingKind
  | strings | capturePath | logLevel | logFormat | metricsNamespace => .text
  | maxPayloadSize | captureMaxPayload => .integer
  | strictMultiset | captureConsole | captureText | metricsEnabled => .flag

/-- The environment variable of a setting, without the common prefix: the
group and key in upper case. -/
def envName (s : Setting) : String := s.group.toUpper ++ "_" ++ s.key.toUpper

def inGroup (g : String) : List Setting := all.filter (·.group = g)

end Setting

def settingGroups : List String := ["codec", "capture", "log", "metrics"]

/-- The runtime settings. -/
structure Settings where
  strings : String := "length-prefixed"
  maxPayloadSize : Int := 0
  strictMultiset : Bool := false
  capturePath : String := ""
  captureConsole : Bool := false
  captureMaxPayload : Int := 256
  captureText : Bool := false
  logLevel : String := "info"
  logFormat : String := "text"
  metricsEnabled : Bool := false
  metricsNamespace : String := "arsdk"
  deriving DecidableEq, Repr, Inhabited

namespace Settings

def get (c : Settings) : Setting → SettingValue
  | .strings => .text c.strings
  | .maxPayloadSize => .integer c.maxPayloadSize
  | .strictMultiset => .flag c.strictMultiset
  | .capturePath => .text c.capturePath
  | .captureConsole => .flag c.captureConsole
  | .captureMaxPayload => .integer c.captureMaxPayload
  | .captureText => .flag c.captureText
  | .logLevel => .text c.logLevel
  | .logFormat => .text c.logFormat
  | .metricsEnabled => .flag c.metricsEnabled
  | .metricsNamespace => .text c.metricsNamespace

def set (c : Settings) : Setting → SettingValue → Settings
  | .strings, .text s => { c with strings := s }
  | .maxPayloadSize, .integer i => { c with maxPayloadSize := i }
  | .strictMultiset, .flag b => { c with strictMultiset := b }
  | .capturePath, .text s => { c with capturePath := s }
  | .captureConsole, .flag b => { c with captureConsole := b }
  | .captureMaxPayload, .integer i => { c with captureMaxPayload := i }
  | .captureText, .flag b => { c with captureText := b }
  | .logLevel, .text s => { c with logLevel := s }
  | .logFormat, .text s => { c with logFormat := s }
  | .metricsEnabled, .flag b => { c with metricsEnabled := b }
  | .metricsNamespace, .text s => { c with metricsNamespace := s }
  | _, _ => c

def level? (c : Settings) : Except String Level :=
  Level.parse (String.map Unicode.toUpper c.logLevel)

/-- The log level, info when the name is unknown. -/
def level (c : Settings) : Level := (c.level?).toOption.getD .info

def lineFormat (c : Settings) : LineFormat := if c.logFormat = "json" then .json else .text

/-- The codec options, with the default string layout when the name is
unknown. -/
def codecOptions (c : Settings) : CodecOptions :=
  { strings := (StringLayout.ofName? c.strings).getD .lengthPrefixed,
    maxPayload := c.maxPayloadSize, strictMultiset := c.strictMultiset }

def problems (c : Settings) : List String :=
  (if (StringLayout.ofName? c.strings).isNone then
    ["codec.strings: " ++ StringLayout.unknownNameMessage c.strings] else []) ++
  (if c.maxPayloadSize < 0 then ["codec.max_payload_size must not be negative"] else []) ++
  (match c.level? with
    | .error m => ["log.level: " ++ m]
    | .ok _ => []) ++
  (if c.logFormat = "text" || c.logFormat = "json" then []
    else ["log.format: unknown format " ++ Quoted.ofString c.logFormat]) ++
  (if c.metricsEnabled && c.metricsNamespace.isEmpty then
    ["metrics.namespace is required when metrics are enabled"] else [])

def validate (c : Settings) : Except String Unit :=
  match c.problems with
  | [] => pure ()
  | ps => throw ("\n".intercalate ps)

end Settings

end DroneProtocol
