import DroneProtocol.Wire.Error

/-! # Argument values

Values are dynamically typed and checked by the codec. Floats are bit
patterns, text is bytes, and a multiset value has one optional argument list
per member, with the failures and foreign sub-frames decoding met. -/

namespace DroneProtocol

/-- The slots of a multiset value over argument values `α`. -/
structure Slots (α : Type) where
  decl : MultisetDecl
  slots : List (Option (List α))
  errors : List WireError := []
  unmatched : Nat := 0
  deriving Repr

/-- A dynamically typed argument value. -/
inductive Value where
  | i8 (v : Int8)
  | u8 (v : UInt8)
  | i16 (v : Int16)
  | u16 (v : UInt16)
  | i32 (v : Int32)
  | u32 (v : UInt32)
  | i64 (v : Int64)
  | u64 (v : UInt64)
  /-- A machine-word integer, which no argument type takes. -/
  | int (v : Int64)
  | f32 (bits : UInt32)
  | f64 (bits : UInt64)
  | text (bytes : List UInt8)
  | bytes (data : List UInt8)
  | entry (e : EnumEntry)
  | bool (b : Bool)
  /-- The absent value. -/
  | null
  /-- A multiset value; `none` is a multiset reference to nothing. -/
  | multiset (m : Option (Slots Value))
  deriving Repr, Inhabited

abbrev MultisetValue := Slots Value

namespace Value

def kindName : Value → String
  | i8 _ => "int8" | u8 _ => "uint8" | i16 _ => "int16" | u16 _ => "uint16"
  | i32 _ => "int32" | u32 _ => "uint32" | i64 _ => "int64" | u64 _ => "uint64"
  | int _ => "int" | f32 _ => "float32" | f64 _ => "float64"
  | text _ => "string" | bytes _ => "[]uint8" | entry _ => "desc.EnumValue"
  | bool _ => "bool" | null => "<nil>" | multiset _ => "*wire.Multiset"

def ofString (s : String) : Value := text (Utf8.encode s)

end Value

namespace Slots

def empty {α : Type} (d : MultisetDecl) : Slots α :=
  { decl := d, slots := d.members.map fun _ => none }

theorem sizeOf_slots_lt {α : Type} [SizeOf α] (m : Slots α) : sizeOf m.slots < sizeOf m := by
  cases m; simp; omega

/-- The number of set slots. -/
def count {α : Type} (m : Slots α) : Nat := (m.slots.filter Option.isSome).length

end Slots

end DroneProtocol
