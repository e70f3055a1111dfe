import DroneProtocol.Logging.Level

/-! # Operational log records

A record has a level, a message and attributes. It prints as a text line
(`level=WARN msg=sample k="v w"`, values quoted only when needed) or a JSON
line, and a handler writes it only at or above its threshold. -/

namespace DroneProtocol

/-- The value of an attribute. -/
inductive AttrValue where
  | text (s : String)
  | int (i : Int)
  | bool (b : Bool)
  deriving DecidableEq, Repr, Inhabited

def AttrValue.show : AttrValue → String
  | .text s => s
  | .int i => toString i
  | .bool b => if b then "true" else "false"

/-- An operational log record. -/
structure Record where
  level : Level
  message : String
  attrs : List (String × AttrValue)
  deriving DecidableEq, Repr, Inhabited

/-- The line formats of operational logs. -/
inductive LineFormat where
  | text | json
  deriving DecidableEq, Repr, Inhabited

namespace Record

def needsQuoting (s : String) : Bool :=
  s.isEmpty || s.any fun c =>
    c = ' ' || c = '=' || c = '"' || c.toNat < 0x20 || c.toNat = 0x7F ||
      (0x80 ≤ c.toNat && c.toNat < 0xA0) || c.toNat = 0xFFFD

def textValue (s : String) : String :=
  if needsQuoting s then Quoted.ofString s else s

def jsonValue : AttrValue → String
  | .text s => jsonString s
  | v => v.show
where
  jsonString (s : String) : String :=
    "\"" ++ String.join (s.toList.map escape) ++ "\""
  escape (c : Char) : String :=
    if c = '"' then "\\\"" else if c = '\\' then "\\\\"
    else if c = '\n' then "\\n" else if c = '\r' then "\\r" else if c = '\t' then "\\t"
    else if c.toNat < 0x20 then
      let ds := Nat.toDigits 16 c.toNat
      "\\u" ++ String.ofList (List.replicate (4 - ds.length) '0' ++ ds)
    else if c = '<' then "\\u003c" else if c = '>' then "\\u003e" else if c = '&' then "\\u0026"
    else c.toString

/-- The line a record prints as, without a time. -/
def line (fmt : LineFormat) (r : Record) : String :=
  match fmt with
  | .text =>
    let parts := ("level=" ++ r.level.name) :: ("msg=" ++ textValue r.message) ::
      r.attrs.map fun (k, v) => textValue k ++ "=" ++ textValue v.show
    " ".intercalate parts ++ "\n"
  | .json =>
    let parts := ("\"level\":" ++ jsonValue (.text r.level.name)) ::
      ("\"msg\":" ++ jsonValue (.text r.message)) ::
      r.attrs.map fun (k, v) => jsonValue (.text k) ++ ":" ++ jsonValue v
    "\x7b" ++ ",".intercalate parts ++ "\x7d\n"

end Record

end DroneProtocol
