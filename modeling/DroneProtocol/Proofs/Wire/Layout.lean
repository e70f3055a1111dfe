import Mathlib.Tactic.Ring
import DroneProtocol.Proofs.Wire.Encoding

/-! # The documented frame layout

The serialisation of the wire format as documented, independent of the
encoder: a four-byte header, then each argument little endian without
padding (`Layout.le`). Main statement: `encode_bytes_layout`, every encoded
frame has exactly these bytes. -/

namespace DroneProtocol

namespace Layout

/-- The `w` low base-256 digits of `n`, least significant first; for a
negative `n` the digits of its two's complement. -/
def le (w : Nat) (n : Int) : List UInt8 :=
  List.ofFn fun i : Fin w => (n / 256 ^ (i : Nat) % 256).toNat.toUInt8

/-- Feature, class, then the command in two bytes. -/
def header (i : Identity) : List UInt8 :=
  le 1 i.feature.toNat ++ le 1 i.cls.toNat ++ le 2 i.command.toNat

/-- The width of a bitfield's unsigned base. Table validation admits no other
base; a bitfield on one is written in eight bytes. -/
def baseWidth : ArgType → Nat
  | .u8 => 1 | .u16 => 2 | .u32 => 4 | _ => 8

mutual

def arg (s : StringLayout) (a : Arg) (v : Value) : List UInt8 :=
  match a.type, v with
  | .i8, .i8 x => le 1 x.toInt
  | .u8, .u8 x => le 1 x.toNat
  | .i16, .i16 x => le 2 x.toInt
  | .u16, .u16 x => le 2 x.toNat
  | .i32, .i32 x => le 4 x.toInt
  | .u32, .u32 x => le 4 x.toNat
  | .i64, .i64 x => le 8 x.toInt
  | .u64, .u64 x => le 8 x.toNat
  | .float, .f32 x => le 4 x.toNat
  | .double, .f64 x => le 8 x.toNat
  | .string, .text t => if s = .nulTerminated then t ++ [0] else le 2 t.length ++ t
  | .binary, .bytes b => le 4 b.length ++ b
  | .enum, v =>
    match (a.enumTable.getD ⟨"", []⟩).entryOf? v with
    | some e => le 4 e.value.toInt
    | none => []
  | .bitfield, .u8 x => le (baseWidth a.base) x.toNat
  | .bitfield, .u16 x => le (baseWidth a.base) x.toNat
  | .bitfield, .u32 x => le (baseWidth a.base) x.toNat
  | .bitfield, .u64 x => le (baseWidth a.base) x.toNat
  | .multiset, .multiset (some m) =>
    let body := slots s m.decl.members m.slots
    le 2 body.length ++ body
  | _, _ => []
termination_by sizeOf v
decreasing_by
  have := Slots.sizeOf_slots_lt m
  simp only [wfParam, Value.multiset.sizeOf_spec, Option.some.sizeOf_spec]
  omega

def args (s : StringLayout) : List Arg → List Value → List UInt8
  | a :: as, v :: vs => arg s a v ++ args s as vs
  | _, _ => []
termination_by _ vs => sizeOf vs

def slots (s : StringLayout) : List Command → List (Option (List Value)) → List UInt8
  | m :: ms, some vs :: ss =>
    let payload := args s m.args vs
    le 2 (4 + payload.length) ++ header m.identity ++ payload ++ slots s ms ss
  | _ :: ms, none :: ss => slots s ms ss
  | _, _ => []
termination_by _ ss => sizeOf ss

end

/-- The bytes of the frame of a command. -/
def frame (s : StringLayout) (cmd : Command) (vs : List Value) : List UInt8 :=
  header cmd.identity ++ args s cmd.args vs

/-! ## Digits -/

theorem le_succ (w : Nat) (n : Int) :
    le (w + 1) n = (n % 256).toNat.toUInt8 :: le w (n / 256) := by
  simp only [le, List.ofFn_succ, Fin.val_zero, pow_zero, Int.ediv_one, Fin.val_succ,
    List.cons.injEq, true_and]
  congr 1
  funext i
  rw [pow_succ', Int.ediv_ediv_of_nonneg (by decide)]

theorem bytes_eq_le : ∀ {w m : Nat} {n : Int}, (256 : Int) ^ w ∣ (m : Int) - n →
    LittleEndian.bytes w m = le w n
  | 0, _, _, _ => rfl
  | w + 1, m, n, ⟨k, hk⟩ => by
    rw [pow_succ', mul_assoc] at hk
    have hlow : (n % 256).toNat = m % 256 := by omega
    have htail : (256 : Int) ^ w ∣ ((m / 256 : Nat) : Int) - n / 256 := ⟨k, by push_cast; omega⟩
    rw [le_succ, LittleEndian.bytes, bytes_eq_le htail, hlow]

theorem bytes_natCast (w m : Nat) : LittleEndian.bytes w m = le w m :=
  bytes_eq_le (by simp)

theorem dvd_toNat_sub_toInt {n : Nat} (x : BitVec n) : (2 : Int) ^ n ∣ (x.toNat : Int) - x.toInt := by
  rw [BitVec.toInt_eq_toNat_cond]
  split
  · simp
  · exact ⟨1, by push_cast; ring⟩

theorem bytes_int8 (x : Int8) : LittleEndian.bytes 1 x.toUInt8.toNat = le 1 x.toInt :=
  bytes_eq_le (by simpa [← Int8.toNat_toBitVec] using dvd_toNat_sub_toInt x.toBitVec)

theorem bytes_int16 (x : Int16) : LittleEndian.bytes 2 x.toUInt16.toNat = le 2 x.toInt :=
  bytes_eq_le (by simpa [← Int16.toNat_toBitVec] using dvd_toNat_sub_toInt x.toBitVec)

theorem bytes_int32 (x : Int32) : LittleEndian.bytes 4 x.toUInt32.toNat = le 4 x.toInt :=
  bytes_eq_le (by simpa [← Int32.toNat_toBitVec] using dvd_toNat_sub_toInt x.toBitVec)

theorem bytes_int64 (x : Int64) : LittleEndian.bytes 8 x.toUInt64.toNat = le 8 x.toInt :=
  bytes_eq_le (by simpa [← Int64.toNat_toBitVec] using dvd_toNat_sub_toInt x.toBitVec)

theorem header_eq (i : Identity) : i.header = header i := by
  have hc : i.command.toNat / 256 < 256 := by
    have := i.command.toNat_lt
    omega
  rw [header, ← bytes_natCast, ← bytes_natCast, ← bytes_natCast]
  simp [Identity.header, LittleEndian.bytes, Nat.mod_eq_of_lt hc]

theorem encodeBits_layout (s : StringLayout) {a : Arg} {v : Value} {bs : List UInt8}
    (ha : a.type = .bitfield) (h : encodeBits a v = .ok bs) : bs = arg s a v := by
  rw [arg.eq_def]
  cases v <;> simp [encodeBits] at h
  case u8 x =>
    split at h
    · rename_i hb
      simp only [hb, Except.ok.injEq] at h
      simp [ha, hb, baseWidth, ← h, bytes_natCast]
    · cases h
  case u16 x =>
    split at h
    · rename_i hb
      simp only [hb, Except.ok.injEq] at h
      simp [ha, hb, baseWidth, ← h, bytes_natCast]
    · cases h
  case u32 x =>
    split at h
    · rename_i hb
      simp only [hb, Except.ok.injEq] at h
      simp [ha, hb, baseWidth, ← h, bytes_natCast]
    · cases h
  case u64 x =>
    split at h
    · cases h
    · simp only [Except.ok.injEq] at h
      subst h
      cases a.base <;> simp [ha, baseWidth, bytes_natCast]

/-! ## The encoder writes the layout -/

open CodecOptions

variable {o : CodecOptions}

mutual

theorem encodeArg_layout {a : Arg} {v : Value} {bs : List UInt8} (h : o.encodeArg a v = .ok bs) :
    bs = arg o.strings a v := by
  -- keep `v` apart from the value the cases fix, for the termination measure
  generalize hw : v = w at h
  cases encodeArg_eq_ok.mp h
  all_goals rw [arg.eq_def]
  case i8 x ha => simp [ha, bytes_int8]
  case u8 x ha => simp [ha, bytes_natCast]
  case i16 x ha => simp [ha, bytes_int16]
  case u16 x ha => simp [ha, bytes_natCast]
  case i32 x ha => simp [ha, bytes_int32]
  case u32 x ha => simp [ha, bytes_natCast]
  case i64 x ha => simp [ha, bytes_int64]
  case u64 x ha => simp [ha, bytes_natCast]
  case float x ha => simp [ha, bytes_natCast]
  case double x ha => simp [ha, bytes_natCast]
  case string t ha henc =>
    obtain ⟨-, ⟨hn, rfl⟩ | ⟨hn, -, rfl⟩⟩ := encodeText_eq_ok.mp henc <;>
      simp [ha, hn, bytes_natCast]
  case binary b ha _ => simp [ha, bytes_natCast]
  case enum e ha he => simp [ha, entryOf?_of_enumEntryOf he, bytes_int32]
  case bitfield ha hb =>
    rw [← arg.eq_def]
    exact encodeBits_layout o.strings ha hb
  case multiset m r ha _ _ hs =>
    obtain ⟨body, -, hbody, -, rfl⟩ := encodeSlotsOf_eq_ok.mp hs
    simp [ha, encodeSlots_layout hbody, bytes_natCast]
termination_by sizeOf v
decreasing_by
  subst hw
  simp only [Value.multiset.sizeOf_spec, Option.some.sizeOf_spec]
  exact Nat.lt_of_lt_of_le (Slots.sizeOf_slots_lt _) (by omega)

theorem encodeEach_layout {name : String} :
    ∀ {i : Nat} {as : List Arg} {vs : List Value} {bs : List UInt8},
      o.encodeEach name i as vs = .ok bs → bs = args o.strings as vs
  | _, a :: as, v :: vs, bs, h => by
    obtain ⟨here, rest, hhere, hrest, rfl⟩ := encodeEach_cons.mp h
    rw [encodeArg_layout hhere, encodeEach_layout hrest, args]
  | _, [], _, bs, h => by
    simp only [encodeEach_nil, Except.ok.injEq] at h
    simp [← h, args]
  | _, _ :: _, [], bs, h => by
    simp only [encodeEach, Except.pure_eq_ok, Except.ok.injEq] at h
    simp [← h, args]
termination_by _ _ vs => sizeOf vs

theorem encodeSlots_layout :
    ∀ {ms : List Command} {ss : List (Option (List Value))} {bs : List UInt8},
      o.encodeSlots ms ss = .ok bs → bs = slots o.strings ms ss
  | m :: ms, s :: ss, bs, h => by
    obtain ⟨here, rest, hs, hrest, rfl⟩ := encodeSlots_cons.mp h
    cases hs with
    | unset => simp [slots, encodeSlots_layout hrest]
    | set vs payload hp _ =>
      obtain ⟨-, heach, -⟩ := encodeArgs_eq_ok.mp hp
      simp [slots, encodeEach_layout heach, encodeSlots_layout hrest, header_eq, bytes_natCast,
        headerSize]
  | [], ss, bs, h => by
    simp only [encodeSlots_nil_left, Except.ok.injEq] at h
    simp [← h, slots]
  | _ :: _, [], bs, h => by
    simp only [encodeSlots_nil_right, Except.ok.injEq] at h
    simp [← h, slots]
termination_by _ ss => sizeOf ss

end

/-- Every frame the encoder produces has the documented bytes. -/
theorem encode_bytes_layout {cmd : Command} {vs : List Value} {f : Frame}
    (h : o.encode cmd vs = .ok f) : f.bytes = frame o.strings cmd vs := by
  obtain ⟨p, hp, rfl⟩ : ∃ p, o.encodeArgs cmd vs = .ok p ∧ ⟨cmd.identity, p⟩ = f := by
    simpa [encode, Except.bind_eq_ok] using h
  obtain ⟨-, heach, -⟩ := encodeArgs_eq_ok.mp hp
  simp [Frame.bytes, frame, header_eq, encodeEach_layout heach]

def pilotingCommand : Command :=
  { name := "test.Piloting.PCMD", feature := 1, cls := 0, id := 2,
    args := [⟨"flag", .u8, none, .i8, none⟩, ⟨"roll", .i8, none, .i8, none⟩,
      ⟨"pitch", .i8, none, .i8, none⟩, ⟨"yaw", .i8, none, .i8, none⟩,
      ⟨"gaz", .i8, none, .i8, none⟩, ⟨"timestampAndSeqNum", .u32, none, .i8, none⟩] }

theorem encode_pilotingCommand_layout :
    (⟨pilotingCommand.identity, [1, 255, 2, 0, 10, 4, 3, 2, 1]⟩ : Frame).bytes =
      frame .lengthPrefixed pilotingCommand
        [.u8 1, .i8 (-1), .i8 2, .i8 0, .i8 10, .u32 0x01020304] := by
  have h : ({} : CodecOptions).encode pilotingCommand
      [.u8 1, .i8 (-1), .i8 2, .i8 0, .i8 10, .u32 0x01020304] =
        .ok ⟨pilotingCommand.identity, [1, 255, 2, 0, 10, 4, 3, 2, 1]⟩ := by
    simp [encode, encodeArgs, encodeEach, encodeArg, pilotingCommand]
    decide
  exact encode_bytes_layout h

end Layout

end DroneProtocol
