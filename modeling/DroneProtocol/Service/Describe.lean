import DroneProtocol.Service.Input
import DroneProtocol.Schema.Naming

/-! # Schema and table requests

`compile`, `table`, `lookup`, `command_info`, `enum`, `names` and
`features_info`: what a schema or a table holds. -/

namespace DroneProtocol.Service

open Schema

namespace Describe

/-- Compile a schema and describe it. -/
def compileSchema (c : Compiled) (req : Datum) : Outcome Datum := do
  let s ← Input.schema req (.ok c) "load" "compile"
  let feats := s.features.map fun f =>
    Datum.obj [("name", .str f.source.name), ("id", .nat f.source.id.toNat),
      ("source", .str f.source.source),
      ("enums", .arr (f.enums.map fun e => .obj [("name", .str e.source.name),
        ("bitfield", .bool e.bitfield), ("table", View.enumTable e.table)])),
      ("commands", .arr (f.commands.map fun cc => .obj [("name", .str cc.desc.name),
        ("class", .str cc.cls), ("deprecated", .bool cc.source.deprecated)])),
      ("multisets", .arr (f.source.multisets.filterMap fun md => (s.multiset? md.name).map fun m =>
        .obj [("name", .str m.decl.name), ("owner", .str m.owner),
          ("members", .strs (m.decl.members.map (·.name)))]))]
  let extra := match req.field? "lookup_multisets" with
    | some names => [("lookup_multisets", Datum.arr (names.items.filterMap Datum.str? |>.map fun n =>
        match s.multiset? n with
        | some m => .obj [("name", .str m.decl.name), ("owner", .str m.owner),
            ("same_as_table", .bool ((s.table.multiset? n).map (·.key == m.decl.key) |>.getD false))]
        | none => .null))]
    | none => []
  pure (.obj ([("table", View.table s.table), ("schema", .arr feats)] ++ extra))

/-- Build a table from descriptors written out; a multiset member is a
command by its index, a command written out in place, or nothing. -/
def table (req : Datum) : Outcome Datum := do
  let es := Input.enums req
  let ms := req.members "multisets"
  let ks := ms.map fun (k, v) => (k, v.string "name")
  let specs ← (req.list "commands").mapM (Input.spec es ks)
  let drafts ← ms.zipIdx.mapM fun ((_, v), i) => do
    let members ← (v.list "members").mapM fun r => match r with
      | .num .. | .real .. => pure (specs[(r.int?.getD 0).toNat]?).join
      | _ => Input.spec es ks r
    pure ({ name := v.string "name", key := i, members } : MultisetDraft)
  let extra := (req.list "extra").map fun e =>
    e.str?.bind fun k => (ks.findIdx? (·.1 == k)).bind (drafts[·]?)
  match Table.build drafts specs extra with
  | .ok t => pure (.obj [("table", View.table t)])
  | .error e => throw (Failure.table e)

def argLookup (c : Command) (n : String) (wire : Bool) : Datum :=
  match c.arg? n with
  | some (i, a) => .obj ([("index", .nat i), ("type", .str a.type.name)] ++
      if wire then [("wire_type", .str a.wireType.name)] else [])
  | none => .obj [("index", .int (-1))]

def featureView (f : FeatureInfo) (cls short : String) : Datum :=
  .obj [("name", .str f.name), ("id", .nat f.id.toNat), ("classless", .bool f.classless),
    ("class", match f.cls? cls with
      | none => .null
      | some k => .obj [("name", .str k.name), ("id", .nat k.id.toNat),
          ("default", .bool k.isDefault),
          ("command", ((k.command? short).map (.str ·.name)).getD .null)])]

/-- Look up whatever a request asks about. -/
def lookup (c : Compiled) (req : Datum) : Outcome Datum := do
  let t := c.table
  let mut out : List (String × Datum) := []
  if let some n := (req.field? "name").bind Datum.str? then
    match t.lookup n with
    | .ok cmd =>
      out := out ++ [("by_name", View.command cmd), ("lookup_error", .null)]
      if let some a := (req.field? "arg").bind Datum.str? then
        out := out ++ [("arg", argLookup cmd a false)]
    | .error e => out := out ++ [("by_name", .null), ("lookup_error", Failure.lookup e)]
  if let some j := req.field? "id" then
    let id ← Input.identity t j
    out := out ++ match t.resolve id with
      | .ok cmd => [("by_id", View.command cmd), ("resolve_error", .null)]
      | .error e => [("by_id", .null), ("resolve_error", Failure.lookup e)]
  if let some fn := (req.field? "feature").bind Datum.str? then
    out := out ++ [("feature", match t.feature? fn with
      | none => .null
      | some f => featureView f (req.string "class") (req.string "short"))]
  if let some i := req.intAt? "feature_id" then
    out := out ++ [("feature_by_id", ((t.featureById? i.toNat.toUInt8).map (.str ·.name)).getD .null)]
  if let some m := (req.field? "multiset").bind Datum.str? then
    out := out ++ [("multiset", ((t.multiset? m).map fun d => Datum.strs (d.members.map (·.name))).getD .null)]
  pure (.obj out)

def commandInfo (req : Datum) : Outcome Datum := do
  let some cmd ← Input.spec (Input.enums req) [] ((req.field? "command_def").getD .null)
    | refuse "command_def"
  pure ((View.command cmd).extend [("string", .str cmd.name), ("identity", .nat cmd.identity.value),
    ("arg_lookups", .arr ((req.list "arg_names").map fun n => argLookup cmd (n.str?.getD "") true))])

def entryOrZero (e : Option EnumEntry) : Datum :=
  .obj [("ok", .bool e.isSome), ("value", View.entry (e.getD ⟨"", 0⟩))]

def u64 (j : Datum) : Outcome UInt64 := return (← Input.integer 64 false j).toNat.toUInt64

/-- Answer queries on an enum table. -/
def enum (req : Datum) : Outcome Datum := do
  let t := Input.enumTable ((req.field? "enum").getD .null)
  let rs ← (req.list "queries").mapM fun q => do
    let v := (q.field? "v").getD .null
    match q.string "q" with
    | "by_value" => pure (entryOrZero (t.byValue? (v.int?.getD 0).toInt32))
    | "by_name" => pure (entryOrZero (t.byName? (v.str?.getD "")))
    | "contains" => pure (.bool (t.contains (v.int?.getD 0).toInt32))
    | "names" => pure (.strs t.names)
    | "flags" =>
      let fs := t.flags (← u64 v)
      pure (if fs.isEmpty then .null else .arr (fs.map View.entry))
    | "unknown" => return .str (toString (t.unknownBits (← u64 v)).toNat)
    | "mask" => pure (.str (toString (t.mask (v.items.filterMap Datum.str?)).toNat))
    | "bit" => pure (.str (toString (EnumEntry.bit (Input.entryOf q)).toNat))
    | "format_bitfield" => return .str (renderBitfield t (← u64 v))
    | o => refuse ("query " ++ o)
  pure (.obj [("results", .arr rs)])

def namedCode (j : Datum) (k : String) (f : UInt8 → String) : List (String × Datum) :=
  match j.intAt? k with
  | some n => [(k, .str (f n.toNat.toUInt8))]
  | none => []

def codecFields (o : CodecOptions) : List (String × Datum) :=
  [("strings", .str o.strings.name), ("max_payload_size", .int o.maxPayload),
    ("strict_multiset", .bool o.strictMultiset)]

/-- The names of codes, and identifiers made from a schema name. -/
def names (req : Datum) : Outcome Datum := do
  let mut out : List (String × Datum) := []
  if let some j := req.field? "arg_type" then
    let t := match j with
      | .str s => (ArgType.ofName? s).elim (Except.error (ArgType.unknownNameMessage s)) Except.ok
      | _ => Except.ok (ArgType.ofCode (j.int?.getD 0).toNat.toUInt8)
    out := out ++ [("arg_type", match t with
      | .ok t => .obj [("index", .nat t.code.toNat), ("name", .str t.name),
          ("size", .nat t.size), ("unsigned", .bool t.isUnsigned)]
      | .error m => report m [] [])]
  out := out ++ namedCode req "list" (ListKind.name ∘ ListKind.ofCode) ++
    namedCode req "buffer" (Delivery.name ∘ Delivery.ofCode) ++
    namedCode req "timeout" (TimeoutPolicy.name ∘ TimeoutPolicy.ofCode) ++
    namedCode req "direction" (fun c => (Direction.mk c).name) ++
    namedCode req "layer" (fun c => (Layer.mk c).name) ++
    namedCode req "category" (fun c => (Category.mk c).name)
  if let some n := req.intAt? "status" then
    let st : SendStatus := ⟨n.toNat.toUInt8⟩
    out := out ++ [("status", .obj [("name", .str st.name), ("failed", .bool st.failed)])]
  match req.field? "string_encoding" with
  | some (.str s) => out := out ++ [("string_encoding", match StringLayout.ofName? s with
      | some l => .obj [("index", .nat l.code.toNat), ("name", .str l.name)]
      | none => report (StringLayout.unknownNameMessage s) [] [])]
  | some j => out := out ++
      [("string_encoding", .str (StringLayout.ofCode (j.int?.getD 0).toNat.toUInt8).name)]
  | none => pure ()
  if let some s := (req.field? "go_name").bind Datum.str? then
    out := out ++ [("go_name", .str (Naming.goName s)), ("file_name", .str (Naming.fileName s)),
      ("param_name", .text (Naming.paramName s))]
  if req.has "codec" then
    out := out ++ [("codec", match Input.codec req with
        | .ok o => .obj (codecFields o)
        | .error e => e),
      ("default_codec", .obj (codecFields {} ++ [("same", .bool true)]))]
  pure (.obj out)

/-- What the bundled schema provides: its commands, multisets and enum
tables by the names of their generated variables, and its table. -/
def featuresInfo (c : Compiled) : Outcome Datum := do
  let ms := c.features.flatMap fun f =>
    f.source.multisets.filterMap fun md => (c.multiset? md.name).map (·.decl.name)
  let es := c.features.flatMap fun f => f.enums.map fun e =>
    (Naming.goName f.source.name ++ Naming.goName e.source.name ++ "Enum", View.enumTable e.table)
  pure (.obj [("commands", .strs (c.features.flatMap fun f => f.commands.map (·.desc.name))),
    ("multisets", .strs ms), ("enums", .obj es), ("table", View.table c.table)])

end Describe

end DroneProtocol.Service
