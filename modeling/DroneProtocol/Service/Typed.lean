import DroneProtocol.Service.Observers
import DroneProtocol.Schema.Naming
import DroneProtocol.Wire.Message

/-! # Typed command helpers

`typed` runs the helpers generated for a command of the bundled schema:
encode and send its arguments, decode them into a record, and notify a
registry holding the bound callback. -/

namespace DroneProtocol.Service

open Schema

namespace Typed

/-- A typed parameter: an enum value given by name becomes its number. -/
def parameter (t : Table) (a : Arg) (j : Datum) : Outcome Value :=
  match a.type, j with
  | .enum, .str s =>
    let e := (a.enumTable.bind fun tbl => tbl.byName? s).getD ⟨"", 0⟩
    pure (.i32 e.value)
  | _, _ => Input.value t (some a) j (4 * j.depth + 4)

/-- The record of a command's arguments: each argument under the exported
name made from its own, or null for a command without arguments. -/
def record (cmd : Command) (vs : List Value) : Datum :=
  if cmd.args.isEmpty then .null
  else .arr ((cmd.args.zip vs).map fun (a, v) => .arr [.str (Naming.goName a.name), View.value v])

/-- The message that the arguments are pulled out of, as the request breaks
it: none at all, one decoded as another command, or one with fewer
arguments. -/
def message (c : Compiled) (cmd : Command) (f : Frame) (req : Datum) : Outcome (Option Message) := do
  if req.flag "decode_nil" || req.flag "decode_nil_desc" then return none
  let m : Message ← match req.field? "decode_as" with
    | some _ =>
      let other ← Input.commandAt c.table req "decode_as"
      let vs ← liftWire (({} : CodecOptions).decodeArgs c.table.declarations other f.payload)
      pure ⟨other, vs⟩
    | none => pure ⟨cmd, ← liftWire (({} : CodecOptions).decode c.table.declarations cmd f)⟩
  match req.intAt? "trim_args" with
  | some n => pure (some { m with args := m.args.take n.toNat })
  | none => pure (some m)

def decode (c : Compiled) (cmd : Command) (f : Frame) (req : Datum) : Datum :=
  match message c cmd f req with
  | .error e => e
  | .ok m =>
    match Message.checkAgainst m cmd with
    | .ok vs => record cmd vs
    | .error e => Failure.wire e

/-- Bind a callback to the command and notify the frame. -/
def on (c : Compiled) (cmd : Command) (f : Frame) (req : Datum) : Datum :=
  let reaction : Reaction := match (req.field? "cb_error").bind Datum.str? with
    | some m => .fail m
    | none => .accept
  let reg : Registry := { table := c.table, reactions := [("typed", reaction)], nesting := 0 }
  let run : DispatchM (Nat × Except DispatchError Unit) := do
    let k ← Registry.register [⟨[cmd.identity], some "typed"⟩]
    pure (k, ← Registry.notify f)
  let ((k, res), reg) := run reg
  let ids := ((reg.bindings[k]?).map (·.ids)).getD []
  .obj [("error", Failure.outcome res),
    ("calls", .arr (reg.journal.invocations.toList.map fun i => record cmd i.args)),
    ("logs", .arr (reg.journal.records.toList.map View.record)),
    ("ids", .strs (ids.map (·.text)))]

/-- Send the command through an interface whose transport reports the
request's statuses, by default one final acknowledgement. -/
def send (c : Compiled) (cmd : Command) (args : List Value) (req : Datum) : Datum :=
  let reply : Reply := if req.has "sender" then Observers.reply req else .report [(⟨1⟩, true)]
  let s : Interface := { registry := { table := c.table, nesting := 0 } }
  let (res, s) := Interface.send cmd args true reply s
  .obj [("error", match res with | .ok _ => .null | .error e => Failure.link e),
    ("sent", .arr (s.sent.toList.map Observers.sentView)),
    ("statuses", .arr (s.statuses.toList.map fun st => .arr [.str st.status.name, .bool st.done]))]

/-- Run the helpers of one command. -/
def run (c : Compiled) (req : Datum) : Outcome Datum := do
  let t := c.table
  let cmd ← Input.command t req
  let mut out : List (String × Datum) := []
  let mut frame : Option Frame := none
  if req.has "args" then
    let args ← (req.list "args").zipIdx.mapM fun (j, i) =>
      match cmd.args[i]? with
      | some a => parameter t a j
      | none => Input.value t none j (4 * j.depth + 4)
    match ({} : CodecOptions).encode cmd args with
    | .ok f =>
      frame := some f
      out := out ++ [("encode", .hex f.bytes), ("send", send c cmd args req)]
    | .error e =>
      out := out ++ [("encode", Failure.wire e),
        ("send", .obj [("error", Failure.wire e), ("sent", .arr []), ("statuses", .arr [])])]
  if req.has "frame" then
    frame := some (← liftWire (Frame.parse (← hexAt req "frame")))
  if let some f := frame then
    if !cmd.args.isEmpty then out := out ++ [("decode", decode c cmd f req)]
    out := out ++ [("on", on c cmd f req)]
  pure (.obj out)

end Typed

end DroneProtocol.Service
