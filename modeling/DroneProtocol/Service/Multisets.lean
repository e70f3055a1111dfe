import DroneProtocol.Service.Input

/-! # Multiset requests

`multiset` runs a script of edits on one value, `decode_multiset` decodes and
re-encodes a region, and `walk_multiset` walks its sub-frames. -/

namespace DroneProtocol.Service

open Schema

namespace Multisets

def encoded (r : Except WireError (List UInt8)) : Datum :=
  match r with
  | .ok r => .obj [("region", .hex r)]
  | .error e => Failure.wire e

/-- One step of a multiset script: its answer and the value after it. -/
def step (c : Compiled) (o : CodecOptions) (d : MultisetDecl) (m : MultisetValue) (q : Datum) :
    Outcome (Datum × MultisetValue) := do
  let t := c.table
  let member ← match (q.field? "member").bind Datum.str? |>.bind t.findByName? with
    | some c => pure c
    | none => if q.has "member" then refuse "member" else pure default
  let args ← Input.args t member.args q "args"
  match q.string "op" with
  | "set" => match m.set member args with
    | .ok m' => pure (.obj [("error", .null)], m')
    | .error e => pure (.obj [("error", Failure.wire e)], m)
  | "set_raw" =>
    let slot := (d.member? member.identity).map (·.1)
    pure (.obj [("slot", (slot.map Datum.nat).getD (.int (-1)))], (m.setRaw member args).getD m)
  | "clear" => let m := m.clear member; pure (.obj [("count", .nat m.count)], m)
  | "get" =>
    let g := m.get? member
    pure (.obj [("ok", .bool g.isSome), ("is_set", .bool (m.isSet member)),
      ("args", ((g.join).map View.args).getD .null)], m)
  | "is_set" => pure (.bool (m.isSet member), m)
  | "count" => pure (.nat m.count, m)
  | "messages" => pure (.arr (m.messages.map fun (c, vs) => .text (({} : Formatter).message c vs)), m)
  | "format" => pure (.text (({} : Formatter).value none (.multiset (some m))), m)
  | "state" => pure (View.multiset m, m)
  | "encode" => pure (encoded (o.encodeMultiset d m), m)
  | "encode_other" =>
    let d' ← Input.multisetDecl t q
    pure (encoded (o.encodeMultiset d' m), m)
  | "decode" =>
    let region ← hexAt q "region"
    match o.decodeMultiset t.declarations d region with
    | .ok (m', e) => pure (.obj [("error", (e.map Failure.wire).getD .null), ("replaced", .bool true)], m')
    | .error e => pure (.obj [("error", Failure.wire e), ("replaced", .bool false)], m)
  | x => refuse ("multiset op " ++ x)

/-- Run a multiset script. -/
def script (c : Compiled) (req : Datum) : Outcome Datum := do
  let o ← Input.codec req
  let d ← Input.multisetDecl c.table req
  let (rs, _) ← (req.list "ops").foldlM (fun (rs, m) q => do
    let (r, m) ← step c o d m q
    pure (rs.push r, m)) ((#[] : Array Datum), Slots.empty d)
  pure (.obj [("results", .arr rs.toList)])

def decode (c : Compiled) (req : Datum) : Outcome Datum := do
  let o ← Input.codec req
  let d ← Input.multisetDecl c.table req
  let region ← hexAt req "region"
  match o.decodeMultiset c.table.declarations d region with
  | .ok (m, e) => pure (.obj [("error", (e.map Failure.wire).getD .null), ("multiset", View.multiset m),
      ("text", .text (({} : Formatter).value none (.multiset (some m)))),
      ("reencode", match o.encodeMultiset d m with
        | .ok r => .hex r
        | .error e => Failure.wire e)])
  | .error e => pure (.obj [("error", Failure.wire e), ("multiset", .null)])

/-- Walk the sub-frames of a multiset region. -/
def walk (c : Compiled) (req : Datum) : Outcome Datum := do
  let t := c.table
  let o ← Input.codec req
  let d ← Input.multisetDecl t req
  let region ← hexAt req "region"
  let resolve := Input.resolver t req
  let stop := req.intAt? "stop_at"
  -- the visitor records each sub-frame and fails at the one `stop_at` names
  let (subs, err) := CodecOptions.forEachSubmessage d region
    (fun s (seen : List SubFrame) =>
      (seen ++ [s], if stop = some (s.index : Int) then some () else none)) []
  let err := err.map fun
    | .inl e => Failure.wire e
    | .inr () => Datum.str "stopped"
  let views := subs.map fun s =>
    let (id, payload) := match s.frame with
      | .ok f => (f.id, f.payload)
      | .error _ => (default, [])
    Datum.obj ([("index", .nat s.index), ("id", .str id.text), ("payload", .hex payload),
      ("matched", .bool s.member.isSome), ("slot", (s.member.map (.nat ·.1)).getD (.int (-1))),
      ("err", ((s.err? d.name).map Failure.wire).getD .null),
      ("decoded", match s.decode t.declarations o resolve with
        | .ok (cmd, vs) => .obj [("command", .str cmd.name), ("args", View.args vs),
            ("text", .text (({} : Formatter).message cmd vs))]
        | .error e => Failure.wire e)] ++
      (s.member.map fun (_, m) => [("member", .str m.name)]).getD [])
  pure (.obj [("subframes", .arr views), ("error", err.getD .null)])

end Multisets

end DroneProtocol.Service
