/-! # Enum tables

An enum table is an ordered list of named 32-bit values; values need not be
contiguous. Bitfields reuse the tables: each value is then the index of a flag,
and a value outside 0..63 has no bit. Look-ups take the first entry that
matches, in declaration order.
-/

namespace DroneProtocol

/-- A named value of an enum table. -/
structure EnumEntry where
  name : String
  value : Int32
  deriving DecidableEq, Repr, Inhabited

/-- An ordered table of named values. -/
structure EnumTable where
  name : String
  values : List EnumEntry
  deriving DecidableEq, Repr, Inhabited

namespace EnumEntry

/-- The mask of the flag a value stands for; none outside 0..63. -/
def bit (e : EnumEntry) : UInt64 :=
  let v := e.value.toInt
  if v < 0 ∨ 63 < v then 0 else (1 : UInt64) <<< v.toNat.toUInt64

end EnumEntry

namespace EnumTable

def byValue? (t : EnumTable) (v : Int32) : Option EnumEntry :=
  t.values.find? (·.value == v)

def byName? (t : EnumTable) (n : String) : Option EnumEntry :=
  t.values.find? (·.name == n)

def contains (t : EnumTable) (v : Int32) : Bool := (t.byValue? v).isSome

def names (t : EnumTable) : List String := t.values.map (·.name)

def flags (t : EnumTable) (bits : UInt64) : List EnumEntry :=
  t.values.filter fun e => e.bit != 0 && (bits &&& e.bit) != 0

def unknownBits (t : EnumTable) (bits : UInt64) : UInt64 :=
  t.values.foldl (fun acc e => acc &&& ~~~e.bit) bits

def mask (t : EnumTable) (names : List String) : UInt64 :=
  names.foldl (fun acc n => match t.byName? n with
    | some e => acc ||| e.bit
    | none => acc) 0

end EnumTable

end DroneProtocol
