/-! # Little-endian integers

Every fixed-width number on the wire is little endian: the least significant
byte comes first. `bytes w n` writes the low `w` bytes of `n`; `value` reads a
byte string back; `value_bytes` says that reading what was written gives the
number modulo `256 ^ w` (written `Nat.pow 256 w`).
-/

namespace DroneProtocol.LittleEndian

/-- The low `w` bytes of `n`, least significant first. -/
def bytes : Nat → Nat → List UInt8
  | 0, _ => []
  | w + 1, n => (n % 256).toUInt8 :: bytes w (n / 256)

/-- The number a little-endian byte string denotes. -/
def value : List UInt8 → Nat
  | [] => 0
  | b :: rest => b.toNat + 256 * value rest

@[simp] theorem length_bytes (w n : Nat) : (bytes w n).length = w := by
  induction w generalizing n with
  | zero => rfl
  | succ w ih => simp [bytes, ih]

theorem value_bytes (w n : Nat) : value (bytes w n) = n % Nat.pow 256 w := by
  induction w generalizing n with
  | zero => simp [bytes, value, Nat.mod_one]
  | succ w ih =>
    simp only [bytes, value, ih]
    have h : ((n % 256).toUInt8).toNat = n % 256 := by
      simp [Nat.toUInt8]
    rw [h, show Nat.pow 256 (w + 1) = 256 * Nat.pow 256 w from Nat.mul_comm _ _, Nat.mod_mul]

end DroneProtocol.LittleEndian
