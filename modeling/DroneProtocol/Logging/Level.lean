import DroneProtocol.Text.Integer
import DroneProtocol.Text.Quoted

/-! # Severity levels of operational records

A level is an integer (debug -4, info 0, warn 4, error 8). It prints as the
nearest named level at or below it with the signed distance, `INFO+2`, and
is read back from the same text, names in any case. -/

namespace DroneProtocol

/-- A severity. -/
structure Level where
  value : Int
  deriving DecidableEq, Repr, Inhabited

namespace Level

/-- The debug level. -/
def debug : Level := ⟨-4⟩

/-- The info level. -/
def info : Level := ⟨0⟩

/-- The warn level. -/
def warn : Level := ⟨4⟩

/-- The error level. -/
def error : Level := ⟨8⟩

def withOffset (base : String) (offset : Int) : String :=
  if offset = 0 then base
  else if offset > 0 then base ++ "+" ++ toString offset
  else base ++ toString offset

/-- The text of a level. -/
def name (l : Level) : String :=
  if l.value < 0 then withOffset "DEBUG" (l.value + 4)
  else if l.value < 4 then withOffset "INFO" l.value
  else if l.value < 8 then withOffset "WARN" (l.value - 4)
  else withOffset "ERROR" (l.value - 8)

def ofName? (s : String) : Option Level :=
  match s.toUpper with
  | "DEBUG" => some debug
  | "INFO" => some info
  | "WARN" => some warn
  | "ERROR" => some error
  | _ => none

/-- Read a level, or say why the text is no level. An offset is a decimal
integer with its sign, of at most 64 bits; the sum of base and offset wraps
around in 64 bits. -/
def parse (s : String) : Except String Level :=
  let fail (why : String) : Except String Level :=
    .error ("slog: level string " ++ Quoted.ofString s ++ ": " ++ why)
  let cs := s.toList
  match cs.findIdx? (fun c => c = '+' || c = '-') with
  | none =>
    match ofName? s with
    | some l => .ok l
    | none => fail "unknown name"
  | some i =>
    let offsetText := String.ofList (cs.drop i)
    match Numeral.int? 10 64 offsetText with
    | none =>
      let why := if (Numeral.signed? 10 offsetText).isSome then "value out of range"
        else "invalid syntax"
      fail ("strconv.Atoi: parsing " ++ Quoted.ofString offsetText ++ ": " ++ why)
    | some off =>
      match ofName? (String.ofList (cs.take i)) with
      | some l => .ok ⟨(l.value + off).toInt64.toInt⟩
      | none => fail "unknown name"

end Level

end DroneProtocol
