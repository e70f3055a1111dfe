import DroneProtocol.Wire.Error
import DroneProtocol.Bytes.LittleEndian

/-! # Frames

A frame is a command identity and its argument payload; on the wire it is a
four-byte header (feature, class, command little endian) followed by the
payload. Reading a header needs four bytes; `parse_bytes` says that reading
the bytes of a frame gives the frame back.
-/

namespace DroneProtocol

def headerSize : Nat := 4

/-- A command identity with its encoded payload. -/
structure Frame where
  id : Identity
  payload : List UInt8
  deriving DecidableEq, Repr, Inhabited

namespace Frame

/-- Header and payload. -/
def bytes (f : Frame) : List UInt8 := f.id.header ++ f.payload

def size (f : Frame) : Nat := headerSize + f.payload.length

def readHeader : List UInt8 → Except WireError Identity
  | f :: c :: lo :: hi :: _ => pure ⟨f, c, (lo.toNat + 256 * hi.toNat).toUInt16⟩
  | bs => throw (.shortHeader bs.length)

def parse (bs : List UInt8) : Except WireError Frame := do
  let id ← readHeader bs
  pure ⟨id, bs.drop headerSize⟩

theorem readHeader_header (i : Identity) (rest : List UInt8) :
    readHeader (i.header ++ rest) = .ok i := by
  obtain ⟨f, c, n⟩ := i
  simp only [Identity.header, List.cons_append, List.nil_append, readHeader]
  congr
  apply UInt16.toNat_inj.mp
  simp only [UInt16.toNat_ofNat', Nat.toUInt8, UInt8.toNat_ofNat']
  have h := n.toNat_lt
  omega

theorem parse_bytes (f : Frame) : parse f.bytes = .ok f := by
  have h := readHeader_header f.id f.payload
  have hd : (f.id.header ++ f.payload).drop headerSize = f.payload := by
    simp [Identity.header, headerSize]
  simp only [parse, bytes, h, hd]
  rfl

end Frame

end DroneProtocol
