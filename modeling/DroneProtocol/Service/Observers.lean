import DroneProtocol.Service.Input

/-! # Registry and interface requests

`dispatch` runs a script on an observer registry, `cmditf` on a command
interface over a transport whose replies the request describes; each step
answers with what happened during it. -/

namespace DroneProtocol.Service

open Schema

namespace Observers

/-- The entries of a binding request, in one of its shapes: all entries,
the first one only, a map from identities to callbacks, or none. -/
def entries (t : Table) (b : Datum) : Outcome (List Entry) := do
  let es ← (b.list "entries").mapM fun e => do
    let ids ← match e.field? "commands" with
      | some cs => cs.items.mapM fun c =>
          (·.identity) <$> (t.lookup (c.str?.getD "")).mapError Failure.lookup
      | none => (e.list "ids").mapM (Input.identity t)
    pure (⟨ids, (e.field? "cb").bind Datum.str?⟩ : Entry)
  match b.string "shape" with
  | "entry" => pure (es.take 1)
  | "map" => pure (Entry.ofMap (es.flatMap fun e => e.ids.map (·, e.callback)))
  | "nil" => pure []
  | _ => pure es

def reactions (t : Table) (req : Datum) : Outcome (List (String × Reaction)) :=
  (req.members "callbacks").mapM fun (k, v) => do
    let m := v.string "message"
    let r ← match v.string "action" with
      | "error" => pure (.fail m)
      | "panic" => pure (.crash m)
      | "release" => pure (.release ((v.intAt? "binding").getD 0).toNat)
      | "register" => Reaction.register <$> entries t ((v.field? "bindings").getD .null)
      | "notify" => Reaction.notify <$> hexAt v "frame"
      | _ => pure .accept
    pure (k, r)

def binding (k : Nat) : DispatchM Datum := do
  let b := ((← get).bindings[k]?).getD ⟨[], true⟩
  pure (.obj [("binding", .nat k), ("ids", .strs (b.ids.map (·.text))), ("active", .bool !b.released)])

/-- The registry operation a step names. -/
def registryStep (t : Table) (q : Datum) : Outcome (DispatchM Datum) := do
  let k := ((q.intAt? "binding").getD 0).toNat
  match q.string "op" with
  | "register" | "observe" =>
    let es ← entries t ((q.field? "bindings").getD .null)
    pure do binding (← Registry.register es)
  | "release" | "unobserve" => pure do
    Registry.unobserve ((q.intAt? "binding").map (·.toNat))
    if q.has "binding" then binding k else pure .null
  | "binding" => pure (binding k)
  | "drop" => pure do
    let (b, a) ← Registry.drop k
    pure (.obj [("released", .bool ((← get).isReleased k)), ("observers_before", .nat b),
      ("observers_after", .nat a)])
  | "observed" =>
    let id ← Input.identity t ((q.field? "id").getD .null)
    pure do return .nat (← Registry.observed id)
  | "len" => pure do return .nat (← Registry.size)
  | "notify" =>
    let id ← Input.identity t ((q.field? "id").getD .null)
    let p ← hexAt q "payload"
    pure do return .obj [("error", Failure.outcome (← Registry.notify ⟨id, p⟩))]
  | "notify_bytes" =>
    let d ← hexAt q "data"
    pure do return .obj [("error", Failure.outcome (← Registry.notifyBytes d))]
  | o => refuse ("op " ++ o)

def added {α : Type} (a b : Array α) : List α := (b.extract a.size b.size).toList

/-- What the journal gained during a step; records are left out when the
registry logs elsewhere. -/
def journalSince (req : Datum) (a b : Journal) : List (String × Datum) :=
  [("calls", .arr ((added a.invocations b.invocations).map View.invocation)),
   ("logs", if req.flag "no_logger" then .arr []
     else .arr ((added a.records b.records).map View.record))] ++
  (b.metrics.map fun m => [("metrics", .strs m.lines)]).getD []

/-- The registry a request configures; its notify callbacks nest notifications
at most three levels deep. -/
def registry (t : Table) (req : Datum) : Outcome Registry := do
  pure { table := t, codec := ← Input.codec req, reactions := ← reactions t req, nesting := 3,
         journal := { metrics := if req.flag "metrics" then some (Metrics.create (req.string "namespace"))
                                 else none } }

/-- Run a registry script. -/
def dispatch (c : Compiled) (req : Datum) : Outcome Datum := do
  let reg ← registry c.table req
  let (out, _) ← (req.list "ops").foldlM (fun (out, reg) q => do
    let (res, reg') := (← registryStep c.table q) reg
    pure (out.push (Datum.obj (("result", res) :: journalSince req reg.journal reg'.journal)), reg'))
    ((#[] : Array Datum), reg)
  pure (.obj [("results", .arr out.toList)])

def reply (q : Datum) : Reply :=
  match q.field? "sender" with
  | some s => match s.field? "reject" with
    | some r => .reject (r.str?.getD "")
    | none => .report ((s.list "statuses").map fun p => match p.items with
      | [a, b] => (⟨(a.int?.getD 0).toNat.toUInt8⟩, b.bool?.getD false)
      | _ => (⟨0⟩, false))
  | none => .report []

def linkStep (t : Table) (q : Datum) : Outcome (LinkM Datum) := do
  let own := q.flag "status"
  let answer (x : LinkM (Except LinkError Unit)) : LinkM Datum := do
    return .obj [("error", match ← x with | .ok _ => .null | .error e => Failure.link e)]
  match q.string "op" with
  | "send" | "send_message" =>
    let cmd ← Input.commandOrSpec t q
    let args ← Input.args t cmd.args q "args"
    pure (answer (Interface.send cmd args own (reply q)))
  | "send_frame" => do
    let id ← Input.identity t ((q.field? "id").getD .null)
    pure (answer (Interface.sendFrame ⟨id, ← hexAt q "payload"⟩ own (reply q)))
  | "receive" => return answer (Interface.receive (← hexAt q "data"))
  | "receive_frame" => do
    let id ← Input.identity t ((q.field? "id").getD .null)
    pure (answer (Interface.receiveFrame ⟨id, ← hexAt q "payload"⟩))
  | _ => Interface.onRegistry <$> registryStep t q

def sentView (p : Frame × Delivery) : Datum :=
  .obj [("frame", .hex p.1.bytes), ("buffer", .str p.2.name)]

def statusView (c : StatusCall) : Datum :=
  .obj [("by", .str (if c.target == .own then "op" else "default")), ("status", .str c.status.name),
    ("done", .bool c.done)]

/-- Run an interface script. -/
def link (c : Compiled) (req : Datum) : Outcome Datum := do
  if req.flag "no_table" then throw (Failure.link .noTable)
  if req.flag "no_sender" then throw (Failure.link .noSender)
  let reg ← registry c.table req
  let s : Interface :=
    { registry := reg, capturePayload := (req.intAt? "capture_payload").getD 0,
      captureText := req.flag "capture_text", capture := !req.flag "no_capture",
      console := req.flag "slog_capture", fallback := req.flag "default_status" }
  let (out, _) ← (req.list "ops").foldlM (fun (out, s) q => do
    let (res, s') := (← linkStep c.table q) s
    pure (out.push (Datum.obj ([("result", res),
      ("events", .arr ((added s.events s'.events).map View.event)),
      ("sent", .arr ((added s.sent s'.sent).map sentView)),
      ("statuses", .arr ((added s.statuses s'.statuses).map statusView))] ++
      journalSince req s.registry.journal s'.registry.journal)), s'))
    ((#[] : Array Datum), s)
  pure (.obj [("results", .arr out.toList), ("session_set", .bool true)])

end Observers

end DroneProtocol.Service
