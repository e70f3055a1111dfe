import DroneProtocol.Service.Failure
import DroneProtocol.Capture.Rfc3339

/-! # Answer views of library values

How values, descriptors, tables, events and records appear in answers: 64-bit
integers as decimal strings, floats as shortest text, bytes that are not UTF-8
as hex, and the random session masked. -/

namespace DroneProtocol.Service

namespace View

def float (f : Ieee.Format) (bits : Nat) : Datum :=
  match f.classify bits with
  | .nan =>
    let w := f.width / 4
    let ds := Nat.toDigits 16 bits
    .str ("NaN(0x" ++ String.ofList (List.replicate (w - ds.length) '0' ++ ds) ++ ")")
  | _ => .str (f.shortestText bits)

def entry (e : EnumEntry) : Datum := .obj [("name", .str e.name), ("value", .int e.value.toInt)]

mutual

/-- An argument value. -/
def value (v : Value) : Datum :=
  match v with
  | .i8 x => .int x.toInt | .u8 x => .nat x.toNat | .i16 x => .int x.toInt
  | .u16 x => .nat x.toNat | .i32 x => .int x.toInt | .u32 x => .nat x.toNat
  | .i64 x => .str (toString x.toInt) | .u64 x => .str (toString x.toNat)
  | .int x => .int x.toInt
  | .f32 b => float Ieee.single b.toNat | .f64 b => float Ieee.double b.toNat
  | .text s => .text s | .bytes b => .hex b | .entry e => entry e
  | .bool b => .bool b | .null => .null
  | .multiset none => .null
  | .multiset (some m) =>
    .obj [("multiset", .str m.decl.name), ("slots", .arr (slots m.slots)),
      ("errors", .arr (m.errors.map Failure.wire)), ("unmatched", .nat m.unmatched),
      ("count", .nat m.count)]
termination_by sizeOf v
decreasing_by
  have := Slots.sizeOf_slots_lt m
  simp only [Value.multiset.sizeOf_spec, Option.some.sizeOf_spec]
  omega

def slots : List (Option (List Value)) → List Datum
  | [] => []
  | none :: ss => .null :: slots ss
  | some vs :: ss => .arr (values vs) :: slots ss
termination_by ss => sizeOf ss

/-- Argument values. -/
def values : List Value → List Datum
  | [] => []
  | v :: vs => value v :: values vs
termination_by vs => sizeOf vs

end

def args (vs : List Value) : Datum := .arr (values vs)

/-- A multiset value. -/
def multiset (m : MultisetValue) : Datum := value (.multiset (some m))

def enumTable (t : EnumTable) : Datum :=
  .obj [("name", .str t.name),
    ("values", .arr (t.values.map fun e => .arr [.str e.name, .int e.value.toInt]))]

def command (c : Command) : Datum :=
  let (f, k, n) := c.path
  .obj [("name", .str c.name), ("path", .strs [f, k, n]), ("short", .str c.shortName),
    ("id", .str c.identity.text), ("list", .str c.list.name),
    ("buffer", .str c.delivery.name), ("timeout", .str c.timeout.name),
    ("args", .arr (c.args.map fun a =>
      .obj ([("name", .str a.name), ("type", .str a.type.name),
        ("wire_type", .str a.wireType.name)] ++
        (match a.enumTable with | some t => [("enum", enumTable t)] | none => []) ++
        (if a.type == .bitfield then [("base", .str a.base.name)] else []) ++
        (match a.multiset with | some r => [("multiset", .str r.name)] | none => []))))]

/-- A descriptor table: its features with their classes, its commands and
its multisets. -/
def table (t : Table) : Datum :=
  .obj [("len", .nat t.commands.length),
    ("features", .arr (t.features.map fun f =>
      .obj [("name", .str f.name), ("id", .nat f.id.toNat),
        ("classless", .bool f.classless),
        ("lookup_ok", .bool (t.feature? f.name).isSome),
        ("classes", .arr (f.classes.map fun k =>
          .obj [("name", .str k.name), ("id", .nat k.id.toNat),
            ("default", .bool k.isDefault),
            ("commands", .strs (k.commands.map (·.shortName)))]))])),
    ("commands", .arr (t.commands.map command)),
    ("multisets", .arr (t.multisets.map fun m =>
      .obj [("name", .str m.name), ("members", .strs (m.members.map (·.name)))]))]

def commandEvent (c : CommandEvent) : Datum :=
  .obj [("id", .str c.id.text), ("name", .str c.name), ("size", .int c.size),
    ("payload", .hex c.payload), ("truncated", .bool c.truncated), ("buffer", .str c.buffer.name),
    ("text", .text c.text)]

def event (e : Event) : Datum :=
  .obj ([("direction", .str e.direction.name), ("layer", .str e.layer.name),
      ("category", .str e.category.name)] ++
    (e.command.map fun c => [("command", commandEvent c)]).getD [] ++
    (e.status.map fun s => [("send_status", .obj [("id", .str s.id.text), ("name", .str s.name),
      ("status", .str s.status), ("done", .bool s.done)])]).getD [] ++
    (e.error.map fun r => [("error", .obj [("layer", .str r.layer.name), ("message", .str r.message),
      ("command", .str r.command), ("context", .str r.context)])]).getD [])

def stampedEvent (e : Event) : Datum :=
  (event e).extend [("timestamp", .str e.time.text), ("session", .str e.session)]

/-- An operational record, its session attribute masked. -/
def record (r : Record) : Datum :=
  .arr [.str r.level.name, .str r.message,
    .arr (r.attrs.map fun (k, v) => .strs [k, if k == "session" then "<session>" else v.show])]

def invocation (i : Invocation) : Datum :=
  .obj ([("cb", .str i.callback), ("command", .str i.command), ("args", args i.args)] ++
    (i.nested.map fun r => [("nested", Failure.outcome r)]).getD [] ++
    (i.registered.map fun k => [("registered", .nat k)]).getD [])

end View

end DroneProtocol.Service
