import DroneProtocol.Wire.Decode
import DroneProtocol.Ieee.Text
import DroneProtocol.Bytes.Hex

/-! # One-line rendering of commands

A command renders as its full name followed by ` | name=value` per argument;
an unknown identity as `Unknown f.c.c`, a frame that does not decode as its
name and the failure. Text need not be UTF-8, so lines are byte strings. -/

namespace DroneProtocol

/-- How values are rendered. -/
structure Formatter where
  /-- Binary bytes shown before the cut; zero or less shows all. -/
  maxBinary : Int := 32
  deriving Repr, Inhabited

abbrev bytesOf (s : String) : List UInt8 := Utf8.encode s

/-- The flags set in a bitfield, by name or as `UNKNOWN(i)`, joined by `|`;
`0` when no bit is set. -/
def renderBitfield (t : EnumTable) (bits : UInt64) : String :=
  if bits = 0 then "0"
  else
    let parts := (List.range 64).filterMap fun i =>
      if (bits >>> i.toUInt64) &&& 1 = 0 then none
      else some ((t.byValue? (Int32.ofNat i)).map (·.name) |>.getD s!"UNKNOWN({i})")
    "|".intercalate parts

namespace Formatter

/-- Binary bytes as `[length]hex`, cut after `maxBinary` bytes. -/
def binary (f : Formatter) (b : List UInt8) : String :=
  if 0 < f.maxBinary ∧ f.maxBinary < b.length then
    s!"[{b.length}]" ++ Hex.encode (b.take f.maxBinary.toNat) ++ "..."
  else s!"[{b.length}]" ++ Hex.encode b

def plain : Value → String
  | .i8 x => toString x.toInt | .u8 x => toString x.toNat
  | .i16 x => toString x.toInt | .u16 x => toString x.toNat
  | .i32 x => toString x.toInt | .u32 x => toString x.toNat
  | .i64 x => toString x.toInt | .u64 x => toString x.toNat
  | .int x => toString x.toInt
  | .f32 x => Ieee.single.shortestText x.toNat
  | .f64 x => Ieee.double.shortestText x.toNat
  | .text s => String.ofList (Utf8.chars s)
  | .bytes b => "[" ++ " ".intercalate (b.map fun x => toString x.toNat) ++ "]"
  | .entry e => "\x7b" ++ e.name ++ " " ++ toString e.value.toInt ++ "\x7d"
  | .bool b => if b then "true" else "false"
  | .null => "<nil>"
  | .multiset _ => "<nil>"

def bitsOf? : Value → Option UInt64
  | .u8 x => some x.toUInt64
  | .u16 x => some x.toUInt64
  | .u32 x => some x.toUInt64
  | .u64 x => some x
  | _ => none

mutual

/-- The rendering of one value of an argument. -/
def value (f : Formatter) (arg : Option Arg) (v : Value) : List UInt8 :=
  match v with
  | .f32 x => bytesOf (Ieee.single.fixedText 6 x.toNat)
  | .f64 x => bytesOf (Ieee.double.fixedText 6 x.toNat)
  | .text s => [39] ++ s ++ [39]
  | .bytes b => bytesOf (f.binary b)
  | .entry e => bytesOf (if e.name.isEmpty then s!"UNKNOWN({e.value.toInt})" else e.name)
  | .multiset (some m) => f.slots m.decl.members m.slots
  | v =>
    match arg with
    | some a =>
      match a.type, a.enumTable, bitsOf? v, v with
      | .bitfield, some t, some bits, _ => bytesOf (renderBitfield t bits)
      | .enum, some t, _, .i32 n =>
        bytesOf ((t.byValue? n).map (·.name) |>.getD s!"UNKNOWN({n.toInt})")
      | _, _, _, _ => bytesOf (plain v)
    | none => bytesOf (plain v)
termination_by sizeOf v
decreasing_by
  have := Slots.sizeOf_slots_lt m
  simp only [Value.multiset.sizeOf_spec, Option.some.sizeOf_spec]
  omega

def args (f : Formatter) : List Arg → List Value → List UInt8
  | a :: as, v :: vs => bytesOf (" | " ++ a.name ++ "=") ++ f.value (some a) v ++ f.args as vs
  | _, _ => []
termination_by _ vs => sizeOf vs

def slots (f : Formatter) (members : List Command) (ss : List (Option (List Value))) :
    List UInt8 :=
  bytesOf "\x7b" ++ f.setSlots true members ss ++ bytesOf "\x7d"
termination_by sizeOf ss + 1

def setSlots (f : Formatter) (first : Bool) : List Command → List (Option (List Value)) → List UInt8
  | c :: cs, some vs :: ss =>
    (if first then [] else bytesOf ", ") ++ bytesOf ("(" ++ c.name) ++ f.args c.args vs ++
      bytesOf ")" ++ f.setSlots false cs ss
  | _ :: cs, none :: ss => f.setSlots first cs ss
  | _, _ => []
termination_by _ ss => sizeOf ss

end

def message (f : Formatter) (cmd : Command) (vs : List Value) : List UInt8 :=
  bytesOf cmd.name ++ f.args cmd.args vs

/-- A frame decoded and rendered: unknown identities and decoding failures
get lines of their own. -/
def frame (f : Formatter) (cat : Catalog) (o : CodecOptions)
    (resolve : Identity → Option Command) (fr : Frame) : List UInt8 :=
  match resolve fr.id with
  | none => bytesOf s!"Unknown {fr.id.feature.toNat}.{fr.id.cls.toNat}.{fr.id.command.toNat}"
  | some cmd =>
    match o.decode cat cmd fr with
    | .error e => bytesOf (cmd.name ++ " | <" ++ e.message ++ ">")
    | .ok vs => f.message cmd vs

end Formatter

end DroneProtocol
