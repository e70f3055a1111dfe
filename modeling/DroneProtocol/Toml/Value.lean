import DroneProtocol.Text.Quoted

/-! # TOML values and tables

A document is a table of keys in the order they were first set. Keys are
written dotted, a part bare when it is only ASCII letters, digits, `_` and
`-`, and quoted otherwise. -/

namespace DroneProtocol

/-- A TOML value. Floats and datetimes keep their text, having been checked. -/
inductive TomlValue where
  | string (s : String)
  | integer (i : Int)
  | float (text : String)
  | boolean (b : Bool)
  | datetime (text : String)
  | array (items : List TomlValue)
  | table (entries : List (String × TomlValue))
  /-- An array of tables, the one being filled last. -/
  | tables (items : List (List (String × TomlValue)))
  deriving Repr, Inhabited

abbrev TomlTable := List (String × TomlValue)

namespace TomlValue

def typeName : TomlValue → String
  | .string _ => "string"
  | .integer _ => "int64"
  | .float _ => "float64"
  | .boolean _ => "bool"
  | .datetime _ => "time.Time"
  | .array _ => "[]any"
  | .table _ => "map[string]any"
  | .tables _ => "[]map[string]any"

end TomlValue

namespace Toml

def isBarePart (s : String) : Bool :=
  !s.isEmpty && s.all fun c => c.isAlphanum || c = '_' || c = '-'

def keyEscape (c : Char) : String :=
  if c = '"' then "\\\""
  else if c = '\\' then "\\\\"
  else if c = '\x08' then "\\b"
  else if c = '\t' then "\\t"
  else if c = '\n' then "\\n"
  else if c = '\x0c' then "\\f"
  else if c = '\r' then "\\r"
  else if c.toNat < 0x20 || c.toNat = 0x7F then "\\u" ++ Quoted.hexDigits 4 c.toNat
  else c.toString

def partText (s : String) : String :=
  if s.isEmpty then "\"\""
  else if isBarePart s then s
  else "\"" ++ String.join (s.toList.map keyEscape) ++ "\""

def keyText (key : List String) : String := ".".intercalate (key.map partText)

end Toml

namespace TomlTable

def find? (k : String) (t : TomlTable) : Option TomlValue := t.lookup k

def put (k : String) (v : TomlValue) (t : TomlTable) : TomlTable :=
  if t.any (·.1 = k) then t.map fun (k', v') => if k' = k then (k', v) else (k', v')
  else t ++ [(k, v)]

/-- The table at a path below this one, going into the last table of an
array of tables; a step that holds no table fails with a message naming the
path up to it. -/
def tableAt? (seen : List String) : List String → TomlTable → Except String TomlTable
  | [], t => pure t
  | k :: ks, t =>
    match t.find? k with
    | some (.table u) => tableAt? (seen ++ [k]) ks u
    | some (.tables us) => tableAt? (seen ++ [k]) ks (us.getLast?.getD [])
    | some _ => throw ("Key '" ++ Toml.keyText (seen ++ [k]) ++ "' has already been defined.")
    | none =>
      throw ("Context for key '" ++ Toml.keyText (seen ++ [k]) ++ "' has not been established.")

/-- Change the table at a path below this one, going into the last table of
an array of tables. Missing steps are created as empty tables and returned;
a step that holds something else fails with `clash` of the path up to it. -/
def alter (clash : List String → String) (f : TomlTable → Except String TomlTable)
    (seen : List String) : List String → TomlTable → Except String (TomlTable × List (List String))
  | [], t => do pure (← f t, [])
  | k :: ks, t =>
    let here := seen ++ [k]
    match t.find? k with
    | none => do
      let (u, made) ← alter clash f here ks []
      pure (t.put k (.table u), here :: made)
    | some (.table u) => do
      let (u, made) ← alter clash f here ks u
      pure (t.put k (.table u), made)
    | some (.tables us) => do
      let (u, made) ← alter clash f here ks (us.getLast?.getD [])
      pure (t.put k (.tables (us.dropLast ++ [u])), made)
    | some _ => throw (clash here)

/-- Set a value under a path of plain tables, creating the missing ones; a
step holding anything else fails. -/
def nest (k : String) (v : TomlValue) : List String → TomlTable → Option TomlTable
  | [], t => some (t.put k v)
  | c :: cs, t =>
    match t.find? c with
    | none => do pure (t.put c (.table (← nest k v cs [])))
    | some (.table u) => do pure (t.put c (.table (← nest k v cs u)))
    | some _ => none

end TomlTable

end DroneProtocol
