import DroneProtocol.Service.View
import DroneProtocol.Schema.Bundled
import DroneProtocol.Wire.Multiset

/-! # Reading requests

Tables, codec options, identities, commands, argument values and descriptors
as requests name them. Multiset values hold slots of values, so reading is
recursive, with fuel four times the depth of the request. -/

namespace DroneProtocol.Service

open Schema

namespace Input

/-- The table a request names, compiled. Failures are reported with the
stage of loading or compiling they happened in. -/
def schema (req : Datum) (dflt : Except SchemaError Compiled) (stageLoad stageCompile : String) :
    Outcome Compiled := do
  let load : Except SchemaError (List FeatureDef) ←
    if let some texts := req.field? "schema" then
      pure (parseAll (texts.items.filterMap Datum.str?))
    else if req.has "schema_files" || req.has "schema_dirs" then
      let files := (req.members "schema_files").map fun (k, v) =>
        (⟨k, .ok (v.str?.getD "")⟩ : SchemaFile)
      let dirs := (req.list "schema_dirs").filterMap Datum.str? |>.map fun d =>
        (⟨d, .error ("read " ++ d ++ ": invalid argument")⟩ : SchemaFile)
      pure (loadFiles (files ++ dirs) "file system" id)
    else if req.flag "bundled" then pure bundledFeatures
    else
      return ← dflt.mapError (Failure.schema · stageCompile)
  let defs ← load.mapError (Failure.schema · stageLoad)
  (compile defs).mapError (Failure.schema · stageCompile)

/-- The codec options a request names; without any, the defaults. -/
def codec (req : Datum) : Outcome CodecOptions := do
  match req.field? "codec" with
  | none => pure {}
  | some c =>
    let strings ← match c.field? "strings" with
      | none => pure StringLayout.lengthPrefixed
      | some s =>
        let n := s.str?.getD ""
        match StringLayout.ofName? n with
        | some l => pure l
        | none => throw (report (StringLayout.unknownNameMessage n) [] [("stage", .str "codec")])
    pure { strings, maxPayload := (c.intAt? "max_payload_size").getD 0,
           strictMultiset := c.flag "strict_multiset" }

def identity (t : Table) (j : Datum) : Outcome Identity :=
  match j with
  | .num .. | .real .. => pure (Identity.ofValue (j.int?.getD 0).toNat)
  | .str s => match Numeral.nat? 0 32 s with
    | some v => pure (Identity.ofValue v)
    | none => (t.lookup s).map (·.identity) |>.mapError Failure.lookup
  | _ => refuse "id"

def commandAt (t : Table) (req : Datum) (k : String) : Outcome Command := do
  let some n := (req.field? k).bind Datum.str? | refuse k
  (t.lookup n).mapError Failure.lookup

/-- The command a request names. -/
def command (t : Table) (req : Datum) : Outcome Command := commandAt t req "command"

/-- An integer of a width: a number, or a numeral with an optional base
prefix that fits the width. -/
def integer (bits : Nat) (signed : Bool) (j : Datum) : Outcome Int :=
  match j with
  | .num .. | .real .. => match j.int? with
    | some v => pure v
    | none => refuse "integer"
  | .str s =>
    let v := if signed then Numeral.int? 0 bits s else (Numeral.nat? 0 bits s).map (Int.ofNat ·)
    match v with
    | some v => pure v
    | none => refuse "integer"
  | _ => refuse "integer"

/-- The bits of a floating-point value: a number rounded straight to the
format, a decimal or special name, or exact bits written `bits:0x…`. -/
def float (f : Ieee.Format) (j : Datum) : Outcome Nat :=
  match j with
  | .num v => pure (f.ofDecimal (v < 0) v.natAbs 0)
  | .real neg m e => pure (f.ofDecimal neg m e)
  | .str s =>
    if s.startsWith "bits:" then
      match Numeral.nat? 0 f.width (s.drop 5).toString with
      | some b => pure b
      | none => refuse "bits"
    else match f.parse? s with
      | some b => pure b
      | none => refuse "float"
  | _ => refuse "float"

def bitsValue (base : ArgType) (v : Int) : Value :=
  match base with
  | .u8 => .u8 v.toNat.toUInt8 | .u16 => .u16 v.toNat.toUInt16
  | .u32 => .u32 v.toNat.toUInt32 | _ => .u64 v.toNat.toUInt64

def integerValue (type : ArgType) (j : Datum) : Outcome Value :=
  match type with
  | .i8 => return .i8 (← integer 8 true j).toInt8
  | .u8 => return .u8 (← integer 8 false j).toNat.toUInt8
  | .i16 => return .i16 (← integer 16 true j).toInt16
  | .u16 => return .u16 (← integer 16 false j).toNat.toUInt16
  | .i32 => return .i32 (← integer 32 true j).toInt32
  | .u32 => return .u32 (← integer 32 false j).toNat.toUInt32
  | .i64 => return .i64 (← integer 64 true j).toInt64
  | .u64 => return .u64 (← integer 64 false j).toNat.toUInt64
  | .float => return .f32 (← float Ieee.single j).toUInt32
  | .double => return .f64 (← float Ieee.double j).toUInt64
  | _ => refuse "number"

def numberTag : String → Option ArgType
  | "int8" => some .i8 | "uint8" => some .u8 | "int16" => some .i16 | "uint16" => some .u16
  | "int32" => some .i32 | "uint32" => some .u32 | "int64" => some .i64 | "uint64" => some .u64
  | "float32" => some .float | "float64" => some .double
  | _ => none

def entryOf (j : Datum) : EnumEntry := ⟨j.string "name", ((j.intAt? "value").getD 0).toInt32⟩

mutual

/-- A value of the kind a tag names. -/
def tagged (t : Table) (j : Datum) (g : String) : Nat → Outcome Value
  | 0 => refuse "nesting"
  | n + 1 => do
    let v := (j.field? "v").getD .null
    if let some ty := numberTag g then return ← integerValue ty v
    match g with
    | "int" => return .int (← integer 64 true v).toInt64
    | "string" => match j.field? "hex" with
      | some _ => return .text (← hexAt j "hex")
      | none => return .text (Utf8.encode (v.str?.getD ""))
    | "bytes" => return .bytes (← hexAt j "hex")
    | "enum" => return .entry (entryOf j)
    | "bool" => return .bool (v.bool?.getD false)
    | "nil" => return .null
    | "nil_multiset" => return .multiset none
    | "multiset" =>
      let some d := t.multiset? (j.string "multiset") | refuse "multiset"
      return .multiset (some (← slots t d j n))
    | _ => refuse ("go type " ++ g)

/-- A multiset value of a declaration, its slots set one after another;
a slot marked raw is written without checks, and a slot the multiset
refuses is left as it was. -/
def slots (t : Table) (d : MultisetDecl) (j : Datum) : Nat → Outcome MultisetValue
  | 0 => refuse "nesting"
  | n + 1 => do
    let mut m : MultisetValue := Slots.empty d
    for s in j.list "slots" do
      let name := s.string "member"
      let cmd ← match d.members.find? (·.name == name) with
        | some c => pure c
        | none => (t.lookup name).mapError Failure.lookup
      let args ← values t cmd.args (s.list "args") n
      if s.flag "raw" then
        if let some m' := m.setRaw cmd args then m := m'
      else
        match m.set cmd args with
        | .ok m' => m := m'
        | .error _ => pure ()
    pure m

/-- A value for an argument; without one, a whole number in the range of
64-bit integers becomes one, any other number a 64-bit float, and a string
text. -/
def value (t : Table) (a : Option Arg) (j : Datum) : Nat → Outcome Value
  | 0 => refuse "nesting"
  | n + 1 => do
    if let some g := (j.field? "go").bind Datum.str? then return ← tagged t j g n
    match a with
    | none =>
      match j with
      | .num v =>
        if -Int.pow 2 63 ≤ v && v < Int.pow 2 63 then pure (.i64 v.toInt64)
        else return .f64 (← float Ieee.double j).toUInt64
      | .real .. => return .f64 (← float Ieee.double j).toUInt64
      | .str s => pure (.text (Utf8.encode s))
      | .bool b => pure (.bool b)
      | _ => pure .null
    | some a =>
      match a.type with
      | .string => pure (.text (Utf8.encode (j.str?.getD "")))
      | .binary => return .bytes (← match j.str?.bind Hex.decode? with
        | some b => pure b
        | none => refuse "hex")
      | .enum =>
        match j with
        | .str s => pure (.text (Utf8.encode s))
        | .num .. | .real .. => return .i32 (j.int?.getD 0).toInt32
        | _ => pure (.entry (entryOf j))
      | .bitfield => return bitsValue a.base (← integer 64 false j)
      | .multiset =>
        let r := a.multiset.getD ⟨"", 0⟩
        let d := (t.declarations.resolve? r).getD ⟨r.name, r.key, []⟩
        return .multiset (some (← slots t d j n))
      | .unknown _ => value t none j n
      | ty => integerValue ty j

/-- Values for arguments, in order; values beyond the arguments are read
without one. -/
def values (t : Table) (as : List Arg) (js : List Datum) : Nat → Outcome (List Value)
  | 0 => refuse "nesting"
  | n + 1 => js.zipIdx.mapM fun (j, i) => value t as[i]? j n

end

def args (t : Table) (as : List Arg) (req : Datum) (k : String) : Outcome (List Value) :=
  values t as (req.list k) (4 * req.depth + 4)

def valueAt (t : Table) (a : Option Arg) (req : Datum) (k : String) : Outcome Value :=
  value t a ((req.field? k).getD .null) (4 * req.depth + 4)

/-- An argument type: a name, or a code. -/
def type : Option Datum → Outcome ArgType
  | some (.str s) => match ArgType.ofName? s with
    | some t => pure t
    | none => refuse "type"
  | some n => pure (ArgType.ofCode (n.int?.getD 0).toNat.toUInt8)
  | none => pure ArgType.i8

def enumTable (e : Datum) : EnumTable :=
  ⟨e.string "name", (e.list "values").map fun p =>
    match p.items with
    | [n, v] => ⟨n.str?.getD "", (v.int?.getD 0).toInt32⟩
    | _ => ⟨"", 0⟩⟩

def argSpec (j : Datum) : Outcome Arg := do
  pure { name := j.string "name", type := ← type (j.field? "type"), base := ← type (j.field? "base"),
         enumTable := (j.field? "enum").map enumTable }

def byte (j : Datum) (k : String) : UInt8 := ((j.intAt? k).getD 0).toNat.toUInt8

/-- A command descriptor written out, its enums and multisets named by keys
into the given maps; null is no command. -/
def spec (es : List (String × EnumTable)) (ks : List (String × String)) (j : Datum) :
    Outcome (Option Command) := do
  if j matches .null then return none
  let args ← (j.list "args").mapM fun a => do
    let ref := (a.field? "multiset").bind fun k => k.str?.bind fun k =>
      (ks.findIdx? (·.1 == k)).map fun i => (⟨(List.lookup k ks).getD "", i⟩ : MultisetRef)
    let type ← type (a.field? "type")
    let base ← Input.type (a.field? "base")
    let enumTable := (a.field? "enum").bind fun k => k.str?.bind (List.lookup · es)
    pure ({ name := a.string "name", type, base, enumTable, multiset := ref } : Arg)
  pure (some
    { name := j.string "name", feature := byte j "feature", cls := byte j "class",
      id := ((j.intAt? "id").getD 0).toNat.toUInt16, args, list := ListKind.ofCode (byte j "list"),
      delivery := Delivery.ofCode (byte j "buffer"), timeout := TimeoutPolicy.ofCode (byte j "timeout") })

def enums (req : Datum) : List (String × EnumTable) :=
  (req.members "enums").map fun (k, v) => (k, enumTable v)

def commandOrSpec (t : Table) (req : Datum) : Outcome Command :=
  match req.field? "command_def" with
  | some d => spec (enums req) [] d >>= fun c => c.elim (refuse "command_def") pure
  | none => command t req

def formatter (req : Datum) : Formatter := { maxBinary := (req.intAt? "max_binary").getD 32 }

def multisetDecl (t : Table) (req : Datum) : Outcome MultisetDecl :=
  match t.multiset? (req.string "multiset") with
  | some d => pure d
  | none => refuse "multiset"

def resolver (t : Table) (req : Datum) : Identity → Option Command :=
  if ((req.field? "resolver").bind Datum.bool?).getD true then t.findByIdentity?
  else fun _ => none

end Input

end DroneProtocol.Service
