import DroneProtocol.Wire.Decode

/-! # Decoded messages

A message is a command descriptor with the values of its arguments, as a
decoding yields them. Arguments are looked up by name; the typed getters
also check the kind of the value. Code that reads the arguments of a known
command by position first checks that the message belongs to it.
-/

namespace DroneProtocol

/-- A command with its argument values. -/
structure Message where
  command : Command
  args : List Value
  deriving Repr

namespace Message

def arg? (m : Message) (name : String) : Option Value := do
  let (i, _) ← m.command.arg? name
  m.args[i]?

def entry? (m : Message) (name : String) : Option EnumEntry :=
  match m.arg? name with
  | some (.entry e) => some e
  | _ => none

def multiset? (m : Message) (name : String) : Option (Option MultisetValue) :=
  match m.arg? name with
  | some (.multiset ms) => some ms
  | _ => none

/-- The arguments of a message that was decoded against a command: the
message exists, carries the command's identity and as many arguments. -/
def checkAgainst (m : Option Message) (cmd : Command) : Except WireError (List Value) :=
  match m with
  | none => throw (.noDescriptor cmd.name)
  | some m =>
    if m.command.identity ≠ cmd.identity then throw (.otherCommand m.command.name cmd.name)
    else if m.args.length ≠ cmd.args.length then
      throw (.messageArgCount cmd.name m.args.length cmd.args.length)
    else pure m.args

def encode (m : Message) : Except WireError Frame :=
  ({} : CodecOptions).encode m.command m.args

end Message

end DroneProtocol
