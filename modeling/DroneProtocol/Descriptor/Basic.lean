import DroneProtocol.Text.Quoted

/-! # Argument types, delivery hints and identities

An argument type is one of fifteen kinds or an unknown code that only
validation refuses. A command identity is a feature byte, a class byte and a
16-bit number, packed in that order into a 32-bit value. -/

namespace DroneProtocol

/-- The type of a command argument. -/
inductive ArgType where
  | i8 | u8 | i16 | u16 | i32 | u32 | i64 | u64
  | float | double | string | binary | enum | bitfield | multiset
  /-- A code past the known kinds; no table accepts it. -/
  | unknown (code : UInt8)
  deriving DecidableEq, Repr, Inhabited

namespace ArgType

def known : List ArgType :=
  [i8, u8, i16, u16, i32, u32, i64, u64, float, double, string, binary, enum, bitfield, multiset]

def knownName : ArgType → String
  | i8 => "i8" | u8 => "u8" | i16 => "i16" | u16 => "u16"
  | i32 => "i32" | u32 => "u32" | i64 => "i64" | u64 => "u64"
  | float => "float" | double => "double" | string => "string" | binary => "binary"
  | enum => "enum" | bitfield => "bitfield" | multiset => "multiset"
  | unknown _ => ""

/-- The numeric code of a type. -/
def code : ArgType → UInt8
  | i8 => 0 | u8 => 1 | i16 => 2 | u16 => 3 | i32 => 4 | u32 => 5 | i64 => 6 | u64 => 7
  | float => 8 | double => 9 | string => 10 | binary => 11 | enum => 12 | bitfield => 13
  | multiset => 14
  | unknown c => c

def ofCode (c : UInt8) : ArgType :=
  (known[c.toNat]?).getD (unknown c)

def name (t : ArgType) : String :=
  match t with
  | unknown c => s!"ArgType({c.toNat})"
  | _ => t.knownName

def ofName? (s : String) : Option ArgType :=
  known.find? (·.knownName == s)

def unknownNameMessage (s : String) : String :=
  "unknown argument type " ++ Quoted.ofString s

def size : ArgType → Nat
  | i8 | u8 => 1
  | i16 | u16 => 2
  | i32 | u32 | float | enum => 4
  | i64 | u64 | double => 8
  | _ => 0

def isUnsigned : ArgType → Bool
  | u8 | u16 | u32 | u64 => true
  | _ => false

end ArgType

/-- Whether a command is an element of a collection kept by the device. -/
inductive ListKind where
  | none | item | mapItem
  | unknown (code : UInt8)
  deriving DecidableEq, Repr, Inhabited

/-- The delivery class of a command. -/
inductive Delivery where
  | nonAck | ack | highPrio
  | unknown (code : UInt8)
  deriving DecidableEq, Repr, Inhabited

/-- What the transport does when an acknowledged command times out. -/
inductive TimeoutPolicy where
  | pop | retry | flush
  | unknown (code : UInt8)
  deriving DecidableEq, Repr, Inhabited

namespace ListKind

def ofCode : UInt8 → ListKind
  | 0 => none | 1 => item | 2 => mapItem | c => unknown c

/-- The numeric code. -/
def code : ListKind → UInt8
  | none => 0 | item => 1 | mapItem => 2 | unknown c => c

def name : ListKind → String
  | none => "NONE" | item => "LIST_ITEM" | mapItem => "MAP_ITEM" | unknown _ => "UNKNOWN"

end ListKind

namespace Delivery

def ofCode : UInt8 → Delivery
  | 0 => nonAck | 1 => ack | 2 => highPrio | c => unknown c

/-- The numeric code. -/
def code : Delivery → UInt8
  | nonAck => 0 | ack => 1 | highPrio => 2 | unknown c => c

def name : Delivery → String
  | nonAck => "NON_ACK" | ack => "ACK" | highPrio => "HIGH_PRIO" | unknown _ => "UNKNOWN"

end Delivery

namespace TimeoutPolicy

def ofCode : UInt8 → TimeoutPolicy
  | 0 => pop | 1 => retry | 2 => flush | c => unknown c

/-- The numeric code. -/
def code : TimeoutPolicy → UInt8
  | pop => 0 | retry => 1 | flush => 2 | unknown c => c

def name : TimeoutPolicy → String
  | pop => "POP" | retry => "RETRY" | flush => "FLUSH" | unknown _ => "UNKNOWN"

end TimeoutPolicy

/-- The identity of a command on the wire. -/
structure Identity where
  feature : UInt8
  cls : UInt8
  command : UInt16
  deriving DecidableEq, Repr, Inhabited

namespace Identity

/-- The 32-bit value: feature, class and command from the top down. -/
def value (i : Identity) : Nat :=
  i.feature.toNat * Nat.pow 2 24 + i.cls.toNat * Nat.pow 2 16 + i.command.toNat

def ofValue (v : Nat) : Identity :=
  ⟨(v / Nat.pow 2 24 % 256).toUInt8, (v / Nat.pow 2 16 % 256).toUInt8, (v % Nat.pow 2 16).toUInt16⟩

/-- Eight upper-case hexadecimal digits after `0x`. -/
def text (i : Identity) : String :=
  let ds := (Nat.toDigits 16 i.value).map Char.toUpper
  "0x" ++ String.ofList (List.replicate (8 - ds.length) '0' ++ ds)

def header (i : Identity) : List UInt8 :=
  [i.feature, i.cls, (i.command.toNat % 256).toUInt8, (i.command.toNat / 256).toUInt8]

end Identity

end DroneProtocol
