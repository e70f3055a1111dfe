import DroneProtocol.Descriptor.Command

/-! # Codec failures

A failure is a cause with its facts, wrapped in the command, argument and
multiset it occurred in; it belongs to one or more of eleven kinds (`faults`),
and its message is built from the same facts. -/

namespace DroneProtocol

/-- The eleven kinds of codec failure. -/
inductive WireFault where
  | malformedMultiset | identityMismatch | unknownCommand | unmatchedMember
  | argCount | argType | enumValue | invalidString | tooLarge | trailingBytes | shortPayload
  deriving DecidableEq, Repr

def WireFault.text : WireFault → String
  | .argCount => "wire: argument count mismatch"
  | .argType => "wire: argument type mismatch"
  | .enumValue => "wire: value not in enum table"
  | .invalidString => "wire: invalid string"
  | .tooLarge => "wire: value too large"
  | .shortPayload => "wire: payload too short"
  | .trailingBytes => "wire: trailing bytes after last argument"
  | .identityMismatch => "wire: frame identity does not match descriptor"
  | .unknownCommand => "wire: unknown command identity"
  | .malformedMultiset => "wire: malformed multiset"
  | .unmatchedMember => "wire: sub-frame is not a multiset member"

def hexText (n : Nat) : String := "0x" ++ String.ofList (Nat.toDigits 16 n)

/-- Why a command could not be encoded or decoded. -/
inductive WireError where
  | argCount (want got : Nat)
  | memberArgCount (member : String) (want got : Nat)
  | argType (arg : String) (want : ArgType) (got : String)
  | wrongMultiset (arg want : String)
  | foreignMultiset (name : String)
  | unsupportedType (type : ArgType)
  | entryNotInTable (name : String) (value : Int32) (table : String)
  | numberNotInTable (value : Int32) (table : String)
  | nameNotInTable (name : List UInt8) (table : String)
  | notUtf8
  | nulByte (offset : Nat)
  | stringTooLong (size : Nat)
  | binaryTooLong (size : Nat)
  | payloadTooLarge (size max : Nat)
  | bitsTooWide (bits : UInt64) (base : ArgType)
  | subframeTooLarge (member : String) (size : Nat)
  | multisetTooLarge (name : String) (size : Nat)
  | short (need offset available : Nat)
  | shortHeader (available : Nat)
  | shortBinary (size available : Nat)
  | unterminated
  | trailing (extra count : Nat)
  | trailingRegion (extra : Nat)
  | identityMismatch (frame descriptor : Identity)
  /-- A message without descriptor, checked against a command. -/
  | noDescriptor (want : String)
  /-- A message of one command, checked against another. -/
  | otherCommand (got want : String)
  /-- A message with the wrong number of arguments for its command. -/
  | messageArgCount (command : String) (got want : Nat)
  | unknownCommand
  /-- A structural multiset failure with its cause. -/
  | malformed (cause : WireError)
  /-- A failure while encoding a command; the index is -1 for the command itself. -/
  | encode (command : String) (index : Int) (arg : String) (cause : WireError)
  /-- A failure while decoding a command, named by its identity when the name is empty. -/
  | decode (command : String) (id : Identity) (index : Int) (arg : String) (cause : WireError)
  | unmatched (multiset : String) (id : Identity)
  /-- Several failures at once. -/
  | joined (parts : List WireError)
  deriving Repr, Inhabited

namespace WireError

/-- The kinds a failure belongs to, outermost first. -/
def faults : WireError → List WireFault
  | argCount .. | memberArgCount .. | messageArgCount .. => [.argCount]
  | argType .. | wrongMultiset .. | foreignMultiset _ | unsupportedType _ => [.argType]
  | entryNotInTable .. | numberNotInTable .. | nameNotInTable .. => [.enumValue]
  | notUtf8 | nulByte _ => [.invalidString]
  | stringTooLong _ | binaryTooLong _ | payloadTooLarge .. | bitsTooWide ..
  | subframeTooLarge .. | multisetTooLarge .. => [.tooLarge]
  | short .. | shortHeader _ | shortBinary .. | unterminated => [.shortPayload]
  | trailing .. | trailingRegion _ => [.trailingBytes]
  | identityMismatch .. | noDescriptor _ | otherCommand .. => [.identityMismatch]
  | unknownCommand => [.unknownCommand]
  | malformed e => .malformedMultiset :: e.faults
  | encode _ _ _ e => e.faults
  | decode _ _ _ _ e => e.faults
  | unmatched .. => [.unmatchedMember]
  | joined es => allFaults es
where
  allFaults : List WireError → List WireFault
    | [] => []
    | e :: rest => e.faults ++ allFaults rest

/-- The message of a failure. -/
def message : WireError → String
  | argCount w g => s!"{WireFault.argCount.text}: want {w}, got {g}"
  | memberArgCount m w g => s!"{WireFault.argCount.text}: {m} wants {w}, got {g}"
  | argType a w g => s!"{WireFault.argType.text}: {a} wants {w.name}, got {g}"
  | wrongMultiset a w => s!"{WireFault.argType.text}: {a} wants multiset {w}"
  | foreignMultiset n => s!"{WireFault.argType.text}: value does not belong to multiset {n}"
  | unsupportedType t => s!"{WireFault.argType.text}: unsupported type {t.name}"
  | entryNotInTable n v t => s!"{WireFault.enumValue.text}: {n}({v.toInt}) not in {t}"
  | numberNotInTable v t => s!"{WireFault.enumValue.text}: {v.toInt} not in {t}"
  | nameNotInTable n t => s!"{WireFault.enumValue.text}: {Quoted.ofBytes n} not in {t}"
  | notUtf8 => s!"{WireFault.invalidString.text}: not valid UTF-8"
  | nulByte o => s!"{WireFault.invalidString.text}: NUL byte at offset {o}"
  | stringTooLong n => s!"{WireFault.tooLarge.text}: string of {n} bytes"
  | binaryTooLong n => s!"{WireFault.tooLarge.text}: binary of {n} bytes"
  | payloadTooLarge n m => s!"{WireFault.tooLarge.text}: payload of {n} bytes exceeds {m}"
  | bitsTooWide b base => s!"{WireFault.tooLarge.text}: {hexText b.toNat} exceeds {base.name}"
  | subframeTooLarge m n => s!"{WireFault.tooLarge.text}: sub-frame {m} of {n} bytes"
  | multisetTooLarge m n => s!"{WireFault.tooLarge.text}: multiset {m} of {n} bytes"
  | short n o h => s!"{WireFault.shortPayload.text}: need {n} bytes at offset {o}, have {h}"
  | shortHeader h => s!"{WireFault.shortPayload.text}: header needs 4 bytes, have {h}"
  | shortBinary n h => s!"{WireFault.shortPayload.text}: binary of {n} bytes, have {h}"
  | unterminated => s!"{WireFault.shortPayload.text}: unterminated string"
  | trailing n c => s!"{WireFault.trailingBytes.text}: {n} bytes after {c} arguments"
  | trailingRegion n => s!"{WireFault.trailingBytes.text}: {n} bytes after region"
  | identityMismatch f d =>
    s!"{WireFault.identityMismatch.text}: frame {f.text}, descriptor {d.text}"
  | noDescriptor w =>
    s!"{WireFault.identityMismatch.text}: message has no descriptor, want {w}"
  | otherCommand g w => s!"{WireFault.identityMismatch.text}: got {g}, want {w}"
  | messageArgCount c g w => s!"{WireFault.argCount.text}: {c} has {g} arguments, want {w}"
  | unknownCommand => WireFault.unknownCommand.text
  | malformed e => s!"{WireFault.malformedMultiset.text}: {e.message}"
  | encode c i a e =>
    if a.isEmpty then s!"encode {c}: {e.message}" else s!"encode {c}: arg {i} ({a}): {e.message}"
  | decode c id i a e =>
    let name := if c.isEmpty then id.text else c
    if a.isEmpty then s!"decode {name}: {e.message}"
    else s!"decode {name}: arg {i} ({a}): {e.message}"
  | unmatched m id => s!"multiset {m}: {id.text} is not a member"
  | joined es => "\n".intercalate (messages es)
where
  messages : List WireError → List String
    | [] => []
    | e :: rest => e.message :: messages rest

def join? : List WireError → Option WireError
  | [] => none
  | es => some (joined es)

end WireError

end DroneProtocol
