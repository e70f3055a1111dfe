import DroneProtocol.Wire.Decode

/-! # Multiset values

Setting a member checks its arguments as the default codec would encode them
and leaves the slot as it was on failure; clearing empties a slot. Members are
found by identity. -/

namespace DroneProtocol

namespace Slots

/-- Store the arguments of a member in its slot after checking them. -/
def set (m : MultisetValue) (cmd : Command) (args : List Value) :
    Except WireError MultisetValue := do
  let some (i, member) := m.decl.member? cmd.identity
    | throw (.unmatched m.decl.name cmd.identity)
  if args.length ≠ member.args.length then
    throw (.memberArgCount member.name member.args.length args.length)
  let _ ← ({} : CodecOptions).encodeArgs member args
  pure { m with slots := m.slots.set i (some args) }

def setRaw (m : MultisetValue) (cmd : Command) (args : List Value) : Option MultisetValue := do
  let (i, _) ← m.decl.member? cmd.identity
  pure { m with slots := m.slots.set i (some args) }

/-- Empty the slot of a member; other commands change nothing. -/
def clear (m : MultisetValue) (cmd : Command) : MultisetValue :=
  match m.decl.member? cmd.identity with
  | some (i, _) => { m with slots := m.slots.set i none }
  | none => m

def get? (m : MultisetValue) (cmd : Command) : Option (Option (List Value)) := do
  let (i, _) ← m.decl.member? cmd.identity
  pure (m.slots[i]?.getD none)

def isSet (m : MultisetValue) (cmd : Command) : Bool :=
  match m.get? cmd with
  | some (some _) => true
  | _ => false

def messages (m : MultisetValue) : List (Command × List Value) :=
  (m.decl.members.zip m.slots).filterMap fun (c, s) => s.map (c, ·)

end Slots

/-- One sub-frame met while walking a multiset region. -/
structure SubFrame where
  index : Nat
  /-- The frame, or the failure to read its header. -/
  frame : Except WireError Frame
  /-- The slot and descriptor of the member it belongs to. -/
  member : Option (Nat × Command)

namespace SubFrame

def err? (s : SubFrame) (multiset : String) : Option WireError :=
  match s.frame with
  | .error e => some e
  | .ok f => if s.member.isNone then some (.unmatched multiset f.id) else none

/-- The arguments of the sub-frame: a member decodes against its descriptor,
another command against the one `resolve` finds. -/
def decode (s : SubFrame) (cat : Catalog) (o : CodecOptions)
    (resolve : Identity → Option Command) : Except WireError (Command × List Value) := do
  let f ← s.frame
  let cmd? := match s.member with
    | some (_, c) => some c
    | none => resolve f.id
  match cmd? with
  | none => throw (.decode "" f.id (-1) "" .unknownCommand)
  | some cmd => do
    let args ← o.decode cat cmd f
    pure (cmd, args)

/-- The sub-frame at index `i` of a multiset body, read off its bytes; a
frame of a member carries that member's slot. -/
def ofRaw (decl : MultisetDecl) : List UInt8 × Nat → SubFrame
  | (raw, i) =>
    match Frame.parse raw with
    | .error e => ⟨i, .error (.decode decl.name default i "" e), none⟩
    | .ok f => ⟨i, .ok f, decl.member? f.id⟩

/-- Visit sub-frames in order, threading the visitor's state, until the
visitor fails; otherwise the walk's own failure `err`, if any, ends it. -/
def visitAll {σ ε : Type} (visit : SubFrame → σ → σ × Option ε) (err : Option WireError) :
    List SubFrame → σ → σ × Option (WireError ⊕ ε)
  | [], st => (st, err.map .inl)
  | s :: rest, st =>
    match visit s st with
    | (st, some e) => (st, some (.inr e))
    | (st, none) => visitAll visit err rest st

end SubFrame

namespace CodecOptions

/-- The sub-frames of a multiset region in wire order, and the structural
failure that ended the walk, if any. -/
def walkMultiset (decl : MultisetDecl) (region : List UInt8) : List SubFrame × Option WireError :=
  match regionBody decl region with
  | .error e => ([], some e)
  | .ok body =>
    let (raws, err) := subframes (body.length + 1) ⟨body, 0⟩
    (raws.zipIdx.map (SubFrame.ofRaw decl),
      err.map fun e => .decode decl.name default (-1) "" (.malformed e))

/-- Visit every sub-frame of a multiset region in wire order, matched or not,
threading the visitor's state. A failure of the visitor stops the walk and is
returned as it is; otherwise the walk ends with the structural failure of the
region, if any. -/
def forEachSubmessage {σ ε : Type} (decl : MultisetDecl) (region : List UInt8)
    (visit : SubFrame → σ → σ × Option ε) (init : σ) : σ × Option (WireError ⊕ ε) :=
  let (subs, err) := walkMultiset decl region
  SubFrame.visitAll visit err subs init

end CodecOptions

end DroneProtocol
