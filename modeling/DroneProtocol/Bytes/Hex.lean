/-! # Hexadecimal text of byte strings

Frames, payloads and binary arguments travel as lowercase hexadecimal text, two
digits a byte, most significant nibble first. Reading accepts either case and
refuses an odd number of digits or any other character.
-/

namespace DroneProtocol.Hex

def digit (n : Nat) : Char :=
  if n < 10 then Char.ofNat (48 + n) else Char.ofNat (87 + n)

def ofByte (b : UInt8) : List Char :=
  [digit (b.toNat / 16), digit (b.toNat % 16)]

def encode (bs : List UInt8) : String :=
  String.ofList (bs.flatMap ofByte)

def nibble? (c : Char) : Option Nat :=
  if '0' ≤ c ∧ c ≤ '9' then some (c.toNat - 48)
  else if 'a' ≤ c ∧ c ≤ 'f' then some (c.toNat - 87)
  else if 'A' ≤ c ∧ c ≤ 'F' then some (c.toNat - 55)
  else none

def decodeChars : List Char → Option (List UInt8)
  | [] => some []
  | [_] => none
  | h :: l :: rest => do
    let hi ← nibble? h
    let lo ← nibble? l
    let tail ← decodeChars rest
    pure ((hi * 16 + lo).toUInt8 :: tail)

def decode? (s : String) : Option (List UInt8) :=
  decodeChars s.toList

end DroneProtocol.Hex
