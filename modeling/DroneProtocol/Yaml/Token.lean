/-! # YAML tokens and failures

Positions count characters from zero. A failure's text is `yaml: `, then
`line N: ` when a line is known, then the problem. -/

namespace DroneProtocol.Yaml

/-- A position in the text. -/
structure Mark where
  index : Nat := 0
  line : Nat := 0
  column : Nat := 0
  deriving DecidableEq, Repr, Inhabited

/-- How a scalar was written. -/
inductive Style where
  | plain | single | double | literal | folded
  deriving DecidableEq, Repr, Inhabited

/-- The kinds of token. -/
inductive Tok where
  | streamStart | streamEnd | documentStart | documentEnd
  | blockSequenceStart | blockMappingStart | blockEnd
  | flowSequenceStart | flowSequenceEnd | flowMappingStart | flowMappingEnd
  | blockEntry | flowEntry | key | value
  | versionDirective (major minor : Nat)
  | tagDirective (handle pre : String)
  | alias (name : String)
  | anchor (name : String)
  | tag (handle suffix : String)
  | scalar (text : String) (style : Style)
  deriving DecidableEq, Repr, Inhabited

/-- A token with its extent. -/
structure Token where
  tok : Tok
  start : Mark
  stop : Mark
  deriving Repr, Inhabited

/-- Why a YAML text could not be read. -/
inductive Error where
  | reader (problem : String)
  | scanner (context : String) (contextMark : Mark) (problem : String) (problemMark : Mark)
  | parser (context : String) (contextMark : Mark) (problem : String) (problemMark : Mark)
  | other (message : String)
  deriving Repr, Inhabited

def Error.message : Error → String
  | .reader p => "yaml: " ++ p
  | .other m => "yaml: " ++ m
  | .scanner _ cm p pm => withLine (if cm.line ≠ 0 then cm.line + 1 else if pm.line ≠ 0 then pm.line + 1 else 0) p
  | .parser _ cm p pm => withLine (if cm.line ≠ 0 then cm.line else pm.line) p
where
  withLine (line : Nat) (p : String) : String :=
    if line = 0 then "yaml: " ++ p else s!"yaml: line {line}: " ++ p

end DroneProtocol.Yaml
