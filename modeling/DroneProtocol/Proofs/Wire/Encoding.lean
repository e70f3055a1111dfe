import DroneProtocol.Proofs.Wire.Canonical

/-! # What encoding writes

For each function of the mutual encoder, exactly when it succeeds and what it
writes, so that later proofs cite these lemmas instead of unfolding it.
`ArgBytes` lists the fifteen ways an argument value is written. -/

namespace DroneProtocol

open CodecOptions

/-- The bytes that encoding writes for one value of an argument, one
constructor per kind of argument. -/
inductive ArgBytes (o : CodecOptions) (a : Arg) : Value → List UInt8 → Prop
  | i8 (x : Int8) : a.type = .i8 → ArgBytes o a (.i8 x) (LittleEndian.bytes 1 x.toUInt8.toNat)
  | u8 (x : UInt8) : a.type = .u8 → ArgBytes o a (.u8 x) (LittleEndian.bytes 1 x.toNat)
  | i16 (x : Int16) : a.type = .i16 → ArgBytes o a (.i16 x) (LittleEndian.bytes 2 x.toUInt16.toNat)
  | u16 (x : UInt16) : a.type = .u16 → ArgBytes o a (.u16 x) (LittleEndian.bytes 2 x.toNat)
  | i32 (x : Int32) : a.type = .i32 → ArgBytes o a (.i32 x) (LittleEndian.bytes 4 x.toUInt32.toNat)
  | u32 (x : UInt32) : a.type = .u32 → ArgBytes o a (.u32 x) (LittleEndian.bytes 4 x.toNat)
  | i64 (x : Int64) : a.type = .i64 → ArgBytes o a (.i64 x) (LittleEndian.bytes 8 x.toUInt64.toNat)
  | u64 (x : UInt64) : a.type = .u64 → ArgBytes o a (.u64 x) (LittleEndian.bytes 8 x.toNat)
  | float (x : UInt32) : a.type = .float → ArgBytes o a (.f32 x) (LittleEndian.bytes 4 x.toNat)
  | double (x : UInt64) : a.type = .double → ArgBytes o a (.f64 x) (LittleEndian.bytes 8 x.toNat)
  | string (s bs : List UInt8) : a.type = .string → o.encodeText s = .ok bs →
      ArgBytes o a (.text s) bs
  | binary (b : List UInt8) : a.type = .binary → b.length < Nat.pow 2 32 →
      ArgBytes o a (.bytes b) (LittleEndian.bytes 4 b.length ++ b)
  | enum (v : Value) (e : EnumEntry) : a.type = .enum → enumEntryOf a v = .ok e →
      ArgBytes o a v (LittleEndian.bytes 4 e.value.toUInt32.toNat)
  | bitfield (v : Value) (bs : List UInt8) : a.type = .bitfield → encodeBits a v = .ok bs →
      ArgBytes o a v bs
  | multiset (m : MultisetValue) (r : MultisetRef) (bs : List UInt8) : a.type = .multiset →
      a.multiset = some r → m.decl.ref = r → o.encodeSlotsOf m.decl m.slots = .ok bs →
      ArgBytes o a (.multiset (some m)) bs

variable {o : CodecOptions}

theorem encodeArg_eq_ok {a : Arg} {v : Value} {bs : List UInt8} :
    o.encodeArg a v = .ok bs ↔ ArgBytes o a v bs := by
  constructor
  · intro h
    rw [encodeArg.eq_def] at h
    split at h <;> simp only [Except.pure_eq_ok, Except.throw_eq_error, reduceCtorEq,
      Except.ok.injEq] at h
    · subst h; exact .i8 _ ‹_›
    · subst h; exact .u8 _ ‹_›
    · subst h; exact .i16 _ ‹_›
    · subst h; exact .u16 _ ‹_›
    · subst h; exact .i32 _ ‹_›
    · subst h; exact .u32 _ ‹_›
    · subst h; exact .i64 _ ‹_›
    · subst h; exact .u64 _ ‹_›
    · subst h; exact .float _ ‹_›
    · subst h; exact .double _ ‹_›
    · exact .string _ _ ‹_› h
    · split at h
      · cases h
      · cases h; exact .binary _ ‹_› (by omega)
    · obtain ⟨e, he, h⟩ := Except.bind_eq_ok.mp h
      cases h
      exact .enum _ e ‹_› he
    · exact .bitfield _ _ ‹_› h
    · split at h
      · split at h
        · cases h
        · exact .multiset _ _ _ ‹_› ‹_› (Decidable.of_not_not ‹_›) h
      · cases h
  · intro h
    rw [encodeArg.eq_def]
    cases h
    case binary b ha hlt =>
      simp only [ha]
      rw [if_neg (by omega)]
      rfl
    case enum e ha he =>
      simp only [ha, he]
      rfl
    case multiset m r ha hr hm hs =>
      simp [ha, hr, hm, hs]
    all_goals simp [*]


/-- The payload of a command: as many values as arguments, each encoded in
turn, and a payload within the codec's limit when it has one. -/
theorem encodeArgs_eq_ok {cmd : Command} {vs : List Value} {bs : List UInt8} :
    o.encodeArgs cmd vs = .ok bs ↔
      vs.length = cmd.args.length ∧ o.encodeEach cmd.name 0 cmd.args vs = .ok bs ∧
        (o.maxPayload ≤ 0 ∨ (bs.length : Int) ≤ o.maxPayload) := by
  rw [encodeArgs.eq_def]
  by_cases hlen : vs.length = cmd.args.length
  · cases he : o.encodeEach cmd.name 0 cmd.args vs with
    | error e => simp [hlen]
    | ok p =>
      simp only [hlen, ne_eq, not_true_eq_false, if_false, Except.ok_bind, true_and,
        Except.ok.injEq]
      split
      · simp only [Except.throw_eq_error, Except.error_bind, reduceCtorEq, false_iff, not_and]
        rintro rfl
        omega
      · simp only [Except.pure_eq_ok, Except.ok.injEq]
        constructor
        · rintro rfl
          exact ⟨rfl, by omega⟩
        · rintro ⟨rfl, -⟩
          rfl
  · simp [hlen]

@[simp] theorem encodeEach_nil (cmd : String) (i : Nat) (vs : List Value) :
    o.encodeEach cmd i [] vs = .ok [] := by
  simp [encodeEach]

theorem encodeEach_cons {cmd : String} {i : Nat} {a : Arg} {as : List Arg} {v : Value}
    {vs : List Value} {bs : List UInt8} :
    o.encodeEach cmd i (a :: as) (v :: vs) = .ok bs ↔
      ∃ here rest, o.encodeArg a v = .ok here ∧ o.encodeEach cmd (i + 1) as vs = .ok rest ∧
        bs = here ++ rest := by
  simp only [encodeEach, Except.bind_eq_ok, Except.mapError_eq_ok, Except.pure_eq_ok,
    Except.ok.injEq]
  constructor
  · rintro ⟨here, hh, rest, hr, rfl⟩
    exact ⟨here, rest, hh, hr, rfl⟩
  · rintro ⟨here, rest, hh, hr, rfl⟩
    exact ⟨here, hh, rest, hr, rfl⟩

/-- The region of a multiset value: one slot per member, a body within the
16-bit size, and that size in front of it. -/
theorem encodeSlotsOf_eq_ok {d : MultisetDecl} {slots : List (Option (List Value))}
    {bs : List UInt8} :
    o.encodeSlotsOf d slots = .ok bs ↔
      ∃ body, slots.length = d.members.length ∧ o.encodeSlots d.members slots = .ok body ∧
        body.length < 65536 ∧ bs = LittleEndian.bytes 2 body.length ++ body := by
  rw [encodeSlotsOf.eq_def]
  by_cases hlen : slots.length = d.members.length
  · cases hb : o.encodeSlots d.members slots with
    | error e => simp [hlen]
    | ok body =>
      simp only [hlen, ne_eq, not_true_eq_false, if_false, Except.ok_bind, true_and,
        Except.ok.injEq, exists_eq_left']
      split
      · simp only [Except.throw_eq_error, Except.error_bind, reduceCtorEq, false_iff, not_and]
        omega
      · simp only [Except.pure_eq_ok, Except.ok.injEq]
        constructor
        · rintro rfl
          exact ⟨by omega, rfl⟩
        · rintro ⟨-, rfl⟩
          rfl
  · simp [hlen]

/-- What one slot adds to a multiset body: nothing when it is unset, else a
sub-frame of at most `65535` bytes, its size, the member's header and payload. -/
inductive SlotBytes (o : CodecOptions) (m : Command) : Option (List Value) → List UInt8 → Prop
  | unset : SlotBytes o m none []
  | set (args : List Value) (payload : List UInt8) : o.encodeArgs m args = .ok payload →
      headerSize + payload.length < 65536 →
      SlotBytes o m (some args)
        (LittleEndian.bytes 2 (headerSize + payload.length) ++ m.identity.header ++ payload)

@[simp] theorem encodeSlots_nil_left (ss : List (Option (List Value))) :
    o.encodeSlots [] ss = .ok [] := by
  simp [encodeSlots]

@[simp] theorem encodeSlots_nil_right (ms : List Command) :
    o.encodeSlots ms [] = .ok [] := by
  cases ms <;> simp [encodeSlots]

theorem encodeSlots_cons {m : Command} {ms : List Command} {s : Option (List Value)}
    {ss : List (Option (List Value))} {bs : List UInt8} :
    o.encodeSlots (m :: ms) (s :: ss) = .ok bs ↔
      ∃ here rest, SlotBytes o m s here ∧ o.encodeSlots ms ss = .ok rest ∧ bs = here ++ rest := by
  cases s with
  | none =>
    simp only [encodeSlots, Except.pure_eq_ok, Except.ok_bind, Except.bind_eq_ok, Except.ok.injEq]
    constructor
    · rintro ⟨rest, hr, rfl⟩
      exact ⟨[], rest, .unset, hr, rfl⟩
    · rintro ⟨here, rest, hs, hr, rfl⟩
      cases hs
      exact ⟨rest, hr, rfl⟩
  | some args =>
    simp only [encodeSlots, Except.pure_eq_ok, Except.ok_bind, Except.bind_eq_ok]
    constructor
    · rintro ⟨payload, hp, h⟩
      split at h
      · cases h
      · obtain ⟨rest, hr, h⟩ := Except.bind_eq_ok.mp h
        cases h
        exact ⟨_, rest, .set args payload hp (by omega), hr, by simp⟩
    · rintro ⟨here, rest, hs, hr, rfl⟩
      cases hs with
      | set _ payload hp hsize =>
        refine ⟨payload, hp, ?_⟩
        rw [if_neg (by omega), hr]
        simp

theorem checkText_eq_ok {s : List UInt8} : checkText s = .ok () ↔ Utf8.valid s = true ∧ 0 ∉ s := by
  unfold checkText
  by_cases hv : Utf8.valid s = true
  · cases hi : s.idxOf? 0 with
    | none => simp [hv, List.idxOf?_eq_none_iff.mp hi]
    | some i =>
      have hmem : (0 : UInt8) ∈ s := by
        by_contra hn
        rw [← List.idxOf?_eq_none_iff, hi] at hn
        cases hn
      simp [hv, hmem]
  · simp [hv]

theorem encodeText_eq_ok {s bs : List UInt8} :
    o.encodeText s = .ok bs ↔ checkText s = .ok () ∧
      (o.strings = .nulTerminated ∧ bs = s ++ [0] ∨
        o.strings ≠ .nulTerminated ∧ s.length < 65536 ∧ bs = LittleEndian.bytes 2 s.length ++ s) := by
  unfold encodeText
  cases hc : checkText s with
  | error e => simp
  | ok u =>
    simp only [Except.ok_bind, true_and]
    by_cases hn : o.strings = .nulTerminated
    · simp [hn, eq_comm]
    · simp only [hn, if_false, false_and, false_or, ne_eq, not_false_eq_true, true_and]
      split
      · simp only [Except.throw_eq_error, reduceCtorEq, false_iff, not_and]
        omega
      · simp only [Except.pure_eq_ok, Except.ok.injEq]
        constructor
        · rintro rfl
          exact ⟨by omega, rfl⟩
        · rintro ⟨-, rfl⟩
          rfl

theorem entryOf?_of_enumEntryOf {a : Arg} {v : Value} {e : EnumEntry}
    (h : enumEntryOf a v = .ok e) : (a.enumTable.getD ⟨"", []⟩).entryOf? v = some e := by
  unfold enumEntryOf at h
  dsimp only at h
  split at h
  · split at h
    · split at h
      · cases h
      · cases h
        simpa [EnumTable.entryOf?]
    · cases h
  · split at h
    · cases h
      simpa [EnumTable.entryOf?]
    · cases h
  · split at h
    · cases h
      simpa [EnumTable.entryOf?]
    · cases h
  · cases h

theorem enumEntryOf_entry {a : Arg} {e : EnumEntry}
    (h : (a.enumTable.getD ⟨"", []⟩).byValue? e.value = some e) : enumEntryOf a (.entry e) = .ok e := by
  simp [enumEntryOf, h]

theorem ArgType.isUnsigned_cases {t : ArgType} (h : t.isUnsigned) :
    t = .u8 ∨ t = .u16 ∨ t = .u32 ∨ t = .u64 := by
  cases t <;> simp_all [ArgType.isUnsigned]

/-- The number a bitfield value stands for: a value of the base's own unsigned
type, or a 64-bit value that fits the base. -/
inductive BitfieldBits (a : Arg) : Value → Nat → Prop
  | u8 (x : UInt8) : a.base = .u8 → BitfieldBits a (.u8 x) x.toNat
  | u16 (x : UInt16) : a.base = .u16 → BitfieldBits a (.u16 x) x.toNat
  | u32 (x : UInt32) : a.base = .u32 → BitfieldBits a (.u32 x) x.toNat
  | u64 (x : UInt64) : (a.base.size * 8 < 64 → x.toNat < Nat.pow 2 (a.base.size * 8)) →
      BitfieldBits a (.u64 x) x.toNat

theorem encodeBits_eq_ok {a : Arg} {v : Value} {bs : List UInt8} (hbase : a.base.isUnsigned) :
    encodeBits a v = .ok bs ↔ ∃ n, BitfieldBits a v n ∧ bs = LittleEndian.bytes a.base.size n := by
  constructor
  · intro h
    cases v <;> simp [encodeBits] at h
    case u8 x =>
      split at h
      · rename_i hb
        simp only [hb, Except.ok.injEq] at h
        exact ⟨_, .u8 x hb, by simp [← h, hb, ArgType.size]⟩
      · cases h
    case u16 x =>
      split at h
      · rename_i hb
        simp only [hb, Except.ok.injEq] at h
        exact ⟨_, .u16 x hb, by simp [← h, hb, ArgType.size]⟩
      · cases h
    case u32 x =>
      split at h
      · rename_i hb
        simp only [hb, Except.ok.injEq] at h
        exact ⟨_, .u32 x hb, by simp [← h, hb, ArgType.size]⟩
      · cases h
    case u64 x =>
      split at h
      · cases h
      · rename_i hfit
        refine ⟨_, .u64 x fun hlt => Nat.lt_of_not_le fun hle => hfit ⟨hlt, hle⟩, ?_⟩
        obtain hb | hb | hb | hb := ArgType.isUnsigned_cases hbase <;>
          simpa [hb, ArgType.size] using h.symm
  · rintro ⟨n, hn, rfl⟩
    cases hn with
    | u8 x hb => simp [encodeBits, hb, ArgType.size]
    | u16 x hb => simp [encodeBits, hb, ArgType.size]
    | u32 x hb => simp [encodeBits, hb, ArgType.size]
    | u64 x hfit =>
      obtain hb | hb | hb | hb := ArgType.isUnsigned_cases hbase <;>
        simp [hb, ArgType.size, Nat.pow_eq] at hfit <;> simp [encodeBits, hb, ArgType.size] <;> omega

end DroneProtocol
