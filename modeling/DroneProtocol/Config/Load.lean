import DroneProtocol.Config.Settings
import DroneProtocol.Toml.Parser

/-! # Loading settings

Settings start from their defaults; a TOML file and then the `ARSDK_`
environment variables are laid over them. A file with keys that match no
setting, or values of the wrong type, is refused; the result must be
consistent. -/

namespace DroneProtocol

def envPrefix : String := "ARSDK_"

namespace Settings

/-- The name a key matches: itself if it is one of the names, else the first
name equal to it ignoring case. -/
def matchName (names : List String) (k : String) : Option String :=
  if names.contains k then some k
  else names.find? fun n => Unicode.equalFold n k

def destinationType : SettingKind → String
  | .text => "string"
  | .integer => "integer"
  | .flag => "boolean"

def fieldType : SettingKind → String
  | .text => "string"
  | .integer => "int"
  | .flag => "bool"

def groupType (g : String) : String :=
  "struct \x7b " ++ "; ".intercalate ((Setting.inGroup g).map fun s =>
    s.fieldName ++ " " ++ fieldType s.kind ++ " " ++ Quoted.ofString ("toml:\"" ++ s.key ++ "\"")) ++
  " \x7d"

def keyError (doc : Toml.Document) (path : List String) (msg : String) : String :=
  let name := Toml.keyText path
  match (doc.info.lookup name).map (·.line) with
  | some line =>
    if 0 < line then "toml: line " ++ toString line ++ " (last key " ++ Quoted.ofString name ++ "): " ++ msg
    else "toml: (last key " ++ Quoted.ofString name ++ "): " ++ msg
  | none => "toml: (last key " ++ Quoted.ofString name ++ "): " ++ msg

def fits : SettingKind → TomlValue → Bool
  | .text, .string _ => true
  | .integer, .integer _ => true
  | .flag, .boolean _ => true
  | _, _ => false

/-- Check the values of a group's table; returns the keys matched to
settings, after those already matched. -/
def groupKeys (doc : Toml.Document) (g k : String) (entries : TomlTable) (seen : List String) :
    Except String (List String) :=
  let settings := Setting.inGroup g
  let step (seen : List String) (entry : String × TomlValue) : Except String (List String) :=
    let (k2, v) := entry
    match (matchName (settings.map (·.key)) k2).bind fun n => settings.find? (·.key = n) with
    | none => pure seen
    | some s =>
      if fits s.kind v then pure (seen ++ [Toml.keyText [k, k2]])
      else throw (keyError doc [k, k2] ("incompatible types: TOML value has type " ++ v.typeName ++
        "; destination has type " ++ destinationType s.kind))
  entries.foldlM step seen

/-- Check a document against the settings; returns the keys matched to a
group or setting. -/
def matchedKeys (doc : Toml.Document) : Except String (List String) :=
  let step (seen : List String) (entry : String × TomlValue) : Except String (List String) :=
    let (k, v) := entry
    match matchName settingGroups k with
    | none => pure seen
    | some g =>
      let seen := seen ++ [Toml.keyText [k]]
      match v with
      | .table entries => groupKeys doc g k entries seen
      | _ => throw (keyError doc [k] ("type mismatch for " ++ groupType g ++
        ": expected table but found " ++ v.typeName))
  doc.root.foldlM step []

def overlay (doc : Toml.Document) (c : Settings) : Settings :=
  let step (c : Settings) (s : Setting) : Settings :=
    match TomlTable.find? s.group doc.root with
    | some (.table t) =>
      match TomlTable.find? s.key t with
      | some (.string x) => c.set s (.text (Unicode.trimSpace x))
      | some (.integer i) => c.set s (.integer i)
      | some (.boolean b) => c.set s (.flag b)
      | _ => c
    | _ => c
  Setting.all.foldl step c

def loadFile (text : String) (c : Settings) : Except String Settings := do
  let doc ← (Toml.parse text).mapError fun e => "load config: " ++ e.text
  let matched ← (matchedKeys doc).mapError ("load config: " ++ ·)
  let unknown := doc.ordered.filter fun k => !matched.contains (Toml.keyText k)
  if !unknown.isEmpty then
    throw ("load config: unknown keys " ++ ", ".intercalate (unknown.map Toml.keyText))
  pure (overlay doc c)

def parseFlag (s : String) : Except String Bool :=
  if ["1", "t", "T", "TRUE", "true", "True"].contains s then pure true
  else if ["0", "f", "F", "FALSE", "false", "False"].contains s then pure false
  else throw ("strconv.ParseBool: parsing " ++ Quoted.ofString s ++ ": invalid syntax")

def parseInt32 (s : String) : Except String Int :=
  match Numeral.signed? 10 s with
  | none => throw ("strconv.ParseInt: parsing " ++ Quoted.ofString s ++ ": invalid syntax")
  | some v =>
    if -Int.pow 2 31 ≤ v && v < Int.pow 2 31 then pure v
    else throw ("strconv.ParseInt: parsing " ++ Quoted.ofString s ++ ": value out of range")

def envValue (s : Setting) (v : String) : Except String SettingValue :=
  match s.kind with
  | .text => pure (.text v)
  | .integer => .integer <$> parseInt32 v
  | .flag => .flag <$> parseFlag v

def overlayEnv (env : List (String × String)) (c : Settings) : Except String Settings :=
  let step (acc : Settings × List String) (s : Setting) : Settings × List String :=
    let (c, errors) := acc
    match env.lookup (envPrefix ++ s.envName) with
    | none => (c, errors)
    | some v =>
      if v.isEmpty then (c, errors)
      else match envValue s v with
        | .ok x => (c.set s x, errors)
        | .error e => (c, errors ++ ["parse error on field " ++ Quoted.ofString s.fieldName ++
            " of type " ++ Quoted.ofString (fieldType s.kind) ++ ": " ++ e])
  let (c, errors) := Setting.all.foldl step (c, [])
  if errors.isEmpty then pure c else throw ("parse env: env: " ++ "; ".intercalate errors)

/-- Load the settings: the defaults, then the file if there is one, then the
environment; the result must be consistent. -/
def load (file : Option String) (env : List (String × String)) : Except String Settings := do
  let c : Settings := {}
  let c ← match file with
    | some text => loadFile text c
    | none => pure c
  let c ← overlayEnv env c
  c.validate
  pure c

end Settings

end DroneProtocol
