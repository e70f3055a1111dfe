import DroneProtocol.Wire.Decode
import DroneProtocol.Descriptor.Table
import DroneProtocol.Logging.Record
import DroneProtocol.Metrics.Counters

/-! # Observer registry

A registry maps command identities to named callbacks, grouped in bindings
that are released at once. A notification decodes a frame and runs the
callbacks of its identity in registration order; callbacks may change the
registry or notify again, as deep as the registry's `nesting` allows. -/

namespace DroneProtocol

/-- One callback registered under identities; an entry without a callback or
without identities registers nothing. -/
structure Entry where
  ids : List Identity
  callback : Option String
  deriving DecidableEq, Repr, Inhabited

namespace Entry

/-- The entries of a map from identities to callbacks: one per identity, in
identity order, a later pair for an identity replacing an earlier one. -/
def ofMap (pairs : List (Identity × Option String)) : List Entry :=
  let keep := pairs.foldl (fun acc (id, cb) =>
    if acc.any (·.1 == id) then acc.map fun p => if p.1 == id then (id, cb) else p
    else acc ++ [(id, cb)]) []
  (keep.mergeSort fun a b => a.1.value ≤ b.1.value).map fun (id, cb) => ⟨[id], cb⟩

end Entry

/-- What a callback does when it runs. -/
inductive Reaction where
  /-- Accept the message. -/
  | accept
  /-- Return an error with a message. -/
  | fail (message : String)
  /-- Crash with a message. -/
  | crash (message : String)
  /-- Release a binding. -/
  | release (binding : Nat)
  /-- Register entries as a new binding. -/
  | register (entries : List Entry)
  /-- Notify the frame in these bytes, inside the running notification. -/
  | notify (frame : List UInt8)
  deriving DecidableEq, Repr, Inhabited

/-- Why a notification delivered nothing. -/
inductive DispatchError where
  /-- The bytes are no frame. -/
  | frame (cause : WireError)
  /-- The identity is missing from the table (the command name is then
  empty) or the payload does not decode. -/
  | undelivered (id : Identity) (command : String) (cause : WireError)
  deriving Repr, Inhabited

namespace DispatchError

/-- The message of a failed notification. -/
def message : DispatchError → String
  | .frame e => e.message
  | .undelivered id c e => "dispatch " ++ (if c.isEmpty then id.text else c) ++ ": " ++ e.message

def cause : DispatchError → WireError
  | .frame e | .undelivered _ _ e => e

end DispatchError

/-- One run of a callback: its name, the command and arguments it received,
the outcome of the notification it nested, if any, and the binding it
registered, if any. -/
structure Invocation where
  callback : String
  command : String
  args : List Value
  nested : Option (Except DispatchError Unit) := none
  registered : Option Nat := none
  deriving Repr, Inhabited

/-- The registry-side record of a binding. -/
structure Binding where
  ids : List Identity
  released : Bool
  deriving DecidableEq, Repr, Inhabited

/-- A callback registered under an identity by a binding. -/
structure Observer where
  binding : Nat
  callback : String
  deriving DecidableEq, Repr, Inhabited

/-- What a running component reports: operational records, runs of
callbacks and metrics. -/
structure Journal where
  records : Array Record := #[]
  invocations : Array Invocation := #[]
  metrics : Option Metrics := none
  deriving Repr, Inhabited

/-- An observer registry over a descriptor table. -/
structure Registry where
  table : Table
  codec : CodecOptions := {}
  /-- The behaviour of callbacks by name; unnamed callbacks accept. -/
  reactions : List (String × Reaction) := []
  /-- How many levels of notifications the callbacks open inside one another:
  the registry sets no limit of its own. -/
  nesting : Nat
  observers : List (Identity × List Observer) := []
  bindings : Array Binding := #[]
  /-- Bindings whose handles were dropped, released at the next operation. -/
  pending : List Nat := []
  journal : Journal := {}
  deriving Repr, Inhabited

abbrev DispatchM := StateM Registry

namespace Registry

def log (level : Level) (message : String) (attrs : List (String × AttrValue)) : DispatchM Unit :=
  modify fun r => { r with journal.records := r.journal.records.push ⟨level, message, attrs⟩ }

def count (f : Metrics → Metrics) : DispatchM Unit :=
  modify fun r => { r with journal.metrics := r.journal.metrics.map f }

def observersOf (r : Registry) (id : Identity) : List Observer :=
  ((r.observers.find? (·.1 == id)).map (·.2)).getD []

def total (r : Registry) : Nat := (r.observers.map (·.2.length)).foldl (· + ·) 0

def isReleased (r : Registry) (k : Nat) : Bool := (r.bindings[k]?.map (·.released)).getD true

/-- Remove the observers of a binding and mark it released; identities left
without observers disappear. Releasing twice changes nothing. -/
def releaseNow (k : Nat) : DispatchM Unit := do
  let r ← get
  match r.bindings[k]? with
  | none => pure ()
  | some b =>
    if b.released then return
    let observers := r.observers.filterMap fun (id, obs) =>
      if b.ids.contains id then
        match obs.filter (·.binding != k) with
        | [] => none
        | rest => some (id, rest)
      else some (id, obs)
    set { r with observers, bindings := r.bindings.set! k { b with released := true } }

def drain : DispatchM Unit := do
  let r ← get
  let pending := r.pending
  set { r with pending := [] }
  for k in pending do
    let r ← get
    if let some b := r.bindings[k]? then
      if !b.released then log .debug "releasing unreferenced binding" [("ids", .int b.ids.length)]
    releaseNow k

/-- Add a callback under an identity for a binding: a binding already
observing the identity keeps its place and takes the new callback. -/
def insert (id : Identity) (k : Nat) (cb : String) : DispatchM Unit :=
  modify fun r =>
    let obs := r.observersOf id
    let obs := if obs.any (·.binding == k)
      then obs.map fun o => if o.binding == k then { o with callback := cb } else o
      else obs ++ [⟨k, cb⟩]
    let observers := if r.observers.any (·.1 == id)
      then r.observers.map fun p => if p.1 == id then (id, obs) else p
      else r.observers ++ [(id, obs)]
    { r with observers }

/-- Register entries as one binding and give its number. A binding without
identities is released from the start. -/
def register (entries : List Entry) : DispatchM Nat := do
  drain
  let k := (← get).bindings.size
  modify fun r => { r with bindings := r.bindings.push ⟨[], false⟩ }
  let mut ids : List Identity := []
  for e in entries do
    if let some cb := e.callback then
      if !e.ids.isEmpty then
        for id in e.ids do
          insert id k cb
          if !ids.contains id then ids := ids ++ [id]
  let released := ids.isEmpty
  modify fun r => { r with bindings := r.bindings.set! k ⟨ids, released⟩ }
  pure k

def unobserve (k : Option Nat) : DispatchM Unit := do
  drain
  if let some k := k then releaseNow k

def observed (id : Identity) : DispatchM Nat := do
  drain
  pure ((← get).observersOf id).length

def size : DispatchM Nat := do
  drain
  pure (← get).observers.length

/-- Queue a binding whose handle was dropped, for release at the registry's
next operation. -/
def enqueue (k : Nat) : DispatchM Unit :=
  modify fun r => { r with pending := r.pending ++ [k] }

/-- Forget the handle of a binding; the registry releases it at its next
operation. Gives the number of observers before and after that operation. -/
def drop (k : Nat) : DispatchM (Nat × Nat) := do
  let before := (← get).total
  enqueue k
  drain
  pure (before, (← get).total)

/-- Report the multisets among decoded arguments: unmatched sub-frames to the
metrics, member failures to the log. -/
def reportMultisets (cmd : Command) (args : List Value) : DispatchM Unit := do
  for v in args do
    if let .multiset (some m) := v then
      count (·.unmatched m.decl.name m.unmatched)
      for e in m.errors do
        log .warn "multiset member not decoded"
          [("command", .text cmd.name), ("multiset", .text m.decl.name), ("error", .text e.message)]

/-- Run one callback on a decoded message. `nest` notifies a nested frame,
when nesting is still allowed. -/
def invoke (nest : Option (List UInt8 → DispatchM (Except DispatchError Unit)))
    (cmd : Command) (args : List Value) (cb : String) : DispatchM Unit := do
  let slot := (← get).journal.invocations.size
  modify fun r => { r with journal.invocations := r.journal.invocations.push ⟨cb, cmd.name, args, none, none⟩ }
  let reaction := (((← get).reactions.find? (·.1 == cb)).map (·.2)).getD .accept
  let note (f : Invocation → Invocation) : DispatchM Unit :=
    modify fun r => { r with journal.invocations := r.journal.invocations.modify slot f }
  let failure : Option (Bool × String) ← match reaction with
    | .accept => pure none
    | .fail m => pure (some (false, m))
    | .crash m => pure (some (true, m))
    | .release k => do unobserve (some k); pure none
    | .register es => do
      let k ← register es
      note fun d => { d with registered := some k }
      pure none
    | .notify bytes =>
      match nest with
      | none => pure none
      | some go => do
        let res ← go bytes
        note fun d => { d with nested := some res }
        pure none
  count (·.notified cmd.name)
  if let some (crashed, m) := failure then
    count (·.callbackFailed cmd.name)
    log .error "observer callback failed" [("command", .text cmd.name),
      ("id", .text cmd.identity.text), ("panic", .bool crashed), ("error", .text m)]

/-- Decode a frame and run the callbacks of its identity. -/
def deliver (nest : Option (List UInt8 → DispatchM (Except DispatchError Unit))) (f : Frame) :
    DispatchM (Except DispatchError Unit) := do
  drain
  let r ← get
  let obs := r.observersOf f.id
  if obs.isEmpty then return .ok ()
  match r.table.findByIdentity? f.id with
  | none =>
    log .warn "observed command not in descriptor table" [("id", .text f.id.text)]
    return .error (.undelivered f.id "" .unknownCommand)
  | some cmd =>
    match r.codec.decode r.table.declarations cmd f with
    | .error e =>
      count (·.codecError "decode")
      log .warn "dropping undecodable command" [("command", .text cmd.name), ("error", .text e.message)]
      return .error (.undelivered f.id cmd.name e)
    | .ok args =>
      count (·.decoded cmd.name)
      reportMultisets cmd args
      for o in obs do
        if !(← get).isReleased o.binding then invoke nest cmd args o.callback
      count (·.observeNotify cmd.name)
      return .ok ()

def notifyAt : Nat → Frame → DispatchM (Except DispatchError Unit)
  | 0, f => deliver none f
  | n + 1, f => deliver (some fun bytes =>
      match Frame.parse bytes with
      | .error e => pure (.error (.frame e))
      | .ok g => notifyAt n g) f

/-- Notify a frame, with callbacks nesting as deep as the registry lets them. -/
def notify (f : Frame) : DispatchM (Except DispatchError Unit) := do
  notifyAt (← get).nesting f

def notifyBytes (bytes : List UInt8) : DispatchM (Except DispatchError Unit) :=
  match Frame.parse bytes with
  | .error e => pure (.error (.frame e))
  | .ok f => notify f

end Registry

end DroneProtocol
