import DroneProtocol.Wire.Value
import DroneProtocol.Wire.Frame

/-! # The argument codec

Arguments are written in declaration order, little endian, without padding;
a multiset is a 16-bit size and a body of sub-frames. Encoding fails on the
first value that does not fit, decoding on the first argument that cannot be
read or on bytes left over. -/

namespace DroneProtocol

/-- The layout of text arguments. -/
inductive StringLayout where
  | lengthPrefixed | nulTerminated
  | unknown (code : UInt8)
  deriving DecidableEq, Repr, Inhabited

namespace StringLayout

def name : StringLayout → String
  | lengthPrefixed => "length-prefixed"
  | nulTerminated => "nul-terminated"
  | unknown _ => "unknown"

def ofCode : UInt8 → StringLayout
  | 0 => lengthPrefixed | 1 => nulTerminated | c => unknown c

def code : StringLayout → UInt8
  | lengthPrefixed => 0 | nulTerminated => 1 | unknown c => c

def ofName? : String → Option StringLayout
  | "" | "length-prefixed" => some lengthPrefixed
  | "nul-terminated" => some nulTerminated
  | _ => none

def unknownNameMessage (s : String) : String :=
  "unknown string encoding " ++ Quoted.ofString s

end StringLayout

/-- How a codec writes and reads arguments. -/
structure CodecOptions where
  strings : StringLayout := .lengthPrefixed
  /-- The largest payload accepted; zero or less accepts any. -/
  maxPayload : Int := 0
  /-- Whether a member that cannot be decoded fails the whole command. -/
  strictMultiset : Bool := false
  deriving DecidableEq, Repr, Inhabited

def checkText (s : List UInt8) : Except WireError Unit :=
  if !Utf8.valid s then throw .notUtf8
  else match s.idxOf? 0 with
    | some i => throw (.nulByte i)
    | none => pure ()

namespace CodecOptions

def encodeText (o : CodecOptions) (s : List UInt8) : Except WireError (List UInt8) := do
  checkText s
  if o.strings = .nulTerminated then pure (s ++ [0])
  else if 65535 < s.length then throw (.stringTooLong s.length)
  else pure (LittleEndian.bytes 2 s.length ++ s)

end CodecOptions

/-- The table entry an enum value stands for: an entry must match by value
(and by name when it has one), a number by value, text by name. -/
def enumEntryOf (a : Arg) (v : Value) : Except WireError EnumEntry :=
  let t := a.enumTable.getD ⟨"", []⟩
  match v with
  | .entry e =>
    match t.byValue? e.value with
    | some x => if !e.name.isEmpty && e.name != x.name then
        throw (.entryNotInTable e.name e.value t.name) else pure x
    | none => throw (.entryNotInTable e.name e.value t.name)
  | .i32 n =>
    match t.byValue? n with
    | some x => pure x
    | none => throw (.numberNotInTable n t.name)
  | .text s =>
    match t.values.find? (Utf8.encode ·.name == s) with
    | some x => pure x
    | none => throw (.nameNotInTable s t.name)
  | v => throw (.argType a.name a.type v.kindName)

/-- The bytes of a bitfield: an unsigned value of the base's own type, or any
64-bit value that fits the base, written at the width of the base. -/
def encodeBits (a : Arg) (v : Value) : Except WireError (List UInt8) := do
  let bits : Nat ← match v with
    | .u8 x => if a.base = .u8 then pure x.toNat else throw (.argType a.name a.type v.kindName)
    | .u16 x => if a.base = .u16 then pure x.toNat else throw (.argType a.name a.type v.kindName)
    | .u32 x => if a.base = .u32 then pure x.toNat else throw (.argType a.name a.type v.kindName)
    | .u64 x =>
      let width := a.base.size * 8
      if width < 64 ∧ x.toNat / Nat.pow 2 width ≠ 0 then throw (.bitsTooWide x a.base)
      else pure x.toNat
    | v => throw (.argType a.name a.type v.kindName)
  let width := match a.base with
    | .u8 => 1 | .u16 => 2 | .u32 => 4 | _ => 8
  pure (LittleEndian.bytes width bits)

namespace CodecOptions

mutual

/-- The payload of a command: the values must match the arguments in number
and each in kind; the payload must not pass the size limit. -/
def encodeArgs (o : CodecOptions) (cmd : Command) (vs : List Value) :
    Except WireError (List UInt8) := do
  if vs.length ≠ cmd.args.length then
    throw (.encode cmd.name (-1) "" (.argCount cmd.args.length vs.length))
  let payload ← o.encodeEach cmd.name 0 cmd.args vs
  if 0 < o.maxPayload ∧ o.maxPayload < payload.length then
    throw (.encode cmd.name (-1) "" (.payloadTooLarge payload.length o.maxPayload.toNat))
  pure payload
termination_by (sizeOf vs, 1)

def encodeEach (o : CodecOptions) (cmd : String) (i : Nat) :
    List Arg → List Value → Except WireError (List UInt8)
  | a :: as, v :: vs => do
    let here ← (o.encodeArg a v).mapError fun e => .encode cmd i a.name e
    let rest ← o.encodeEach cmd (i + 1) as vs
    pure (here ++ rest)
  | _, _ => pure []
termination_by _ vs => (sizeOf vs, 0)

/-- The bytes of one argument. -/
def encodeArg (o : CodecOptions) (a : Arg) (v : Value) : Except WireError (List UInt8) :=
  let mismatch : Except WireError (List UInt8) := throw (.argType a.name a.type v.kindName)
  match a.type, v with
  | .i8, .i8 x => pure (LittleEndian.bytes 1 x.toUInt8.toNat)
  | .u8, .u8 x => pure (LittleEndian.bytes 1 x.toNat)
  | .i16, .i16 x => pure (LittleEndian.bytes 2 x.toUInt16.toNat)
  | .u16, .u16 x => pure (LittleEndian.bytes 2 x.toNat)
  | .i32, .i32 x => pure (LittleEndian.bytes 4 x.toUInt32.toNat)
  | .u32, .u32 x => pure (LittleEndian.bytes 4 x.toNat)
  | .i64, .i64 x => pure (LittleEndian.bytes 8 x.toUInt64.toNat)
  | .u64, .u64 x => pure (LittleEndian.bytes 8 x.toNat)
  | .float, .f32 x => pure (LittleEndian.bytes 4 x.toNat)
  | .double, .f64 x => pure (LittleEndian.bytes 8 x.toNat)
  | .string, .text s => o.encodeText s
  | .binary, .bytes b =>
    if Nat.pow 2 32 ≤ b.length then throw (.binaryTooLong b.length)
    else pure (LittleEndian.bytes 4 b.length ++ b)
  | .enum, v => do
    let e ← enumEntryOf a v
    pure (LittleEndian.bytes 4 e.value.toUInt32.toNat)
  | .bitfield, v => encodeBits a v
  | .multiset, .multiset (some m) =>
    match a.multiset with
    | some r =>
      if m.decl.ref ≠ r then throw (.wrongMultiset a.name r.name)
      else o.encodeSlotsOf m.decl m.slots
    | none => throw (.wrongMultiset a.name "")
  | .i8, _ | .u8, _ | .i16, _ | .u16, _ | .i32, _ | .u32, _ | .i64, _ | .u64, _
  | .float, _ | .double, _ | .string, _ | .binary, _ | .multiset, _ => mismatch
  | .unknown c, _ => throw (.unsupportedType (.unknown c))
termination_by (sizeOf v, 0)
decreasing_by
  apply Prod.Lex.left
  have := Slots.sizeOf_slots_lt m
  simp only [wfParam, Value.multiset.sizeOf_spec, Option.some.sizeOf_spec]
  omega

def encodeSlotsOf (o : CodecOptions) (d : MultisetDecl) (slots : List (Option (List Value))) :
    Except WireError (List UInt8) := do
  if slots.length ≠ d.members.length then throw (.foreignMultiset d.name)
  let body ← o.encodeSlots d.members slots
  if 65535 < body.length then throw (.multisetTooLarge d.name body.length)
  pure (LittleEndian.bytes 2 body.length ++ body)
termination_by (sizeOf slots, 1)

def encodeSlots (o : CodecOptions) :
    List Command → List (Option (List Value)) → Except WireError (List UInt8)
  | m :: ms, s :: ss => do
    let here ← match s with
      | none => pure []
      | some args => do
        let payload ← o.encodeArgs m args
        let size := headerSize + payload.length
        if 65535 < size then throw (.subframeTooLarge m.name size)
        pure (LittleEndian.bytes 2 size ++ m.identity.header ++ payload)
    let rest ← o.encodeSlots ms ss
    pure (here ++ rest)
  | _, _ => pure []
termination_by _ ss => (sizeOf ss, 0)

end

/-- The region of a multiset value checked against declaration `d`: the
value must be of that declaration. -/
def encodeMultiset (o : CodecOptions) (d : MultisetDecl) (m : MultisetValue) :
    Except WireError (List UInt8) :=
  if m.decl.ref ≠ d.ref then throw (.foreignMultiset d.name)
  else o.encodeSlotsOf d m.slots

def encode (o : CodecOptions) (cmd : Command) (vs : List Value) : Except WireError Frame := do
  let payload ← o.encodeArgs cmd vs
  pure ⟨cmd.identity, payload⟩

end CodecOptions

end DroneProtocol
