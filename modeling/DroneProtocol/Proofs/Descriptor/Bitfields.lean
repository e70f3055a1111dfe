import DroneProtocol.Render.Formatter
import DroneProtocol.Proofs.Descriptor.Reachable
import DroneProtocol.Proofs.Descriptor.Filing

/-! # Reading a bitfield against its table

The table's helpers walk entries in declaration order, the rendering walks the
64 bit positions. Main statement: `bitfield_readings_agree`, in a table of
distinct names and values the two readings give the same flags and unknown
bits. -/

namespace DroneProtocol

/-! ## Bits of a word -/

namespace Bitfield

theorem testBit_and (a b : UInt64) (i : Nat) :
    (a &&& b).toNat.testBit i = (a.toNat.testBit i && b.toNat.testBit i) := by
  rw [UInt64.toNat_and, Nat.testBit_and]

theorem testBit_or (a b : UInt64) (i : Nat) :
    (a ||| b).toNat.testBit i = (a.toNat.testBit i || b.toNat.testBit i) := by
  rw [UInt64.toNat_or, Nat.testBit_or]

theorem testBit_not (a : UInt64) (i : Nat) :
    (~~~a).toNat.testBit i = (decide (i < 64) && !a.toNat.testBit i) := by
  show (~~~a).toBitVec.getLsbD i = _
  rw [UInt64.toBitVec_not, BitVec.getLsbD_not]
  rfl

theorem testBit_zero (i : Nat) : (0 : UInt64).toNat.testBit i = false := by
  rw [UInt64.toNat_zero, Nat.zero_testBit]

theorem testBit_of_le (x : UInt64) {i : Nat} (h : 64 ≤ i) : x.toNat.testBit i = false :=
  Nat.testBit_lt_two_pow (Nat.lt_of_lt_of_le x.toNat_lt (Nat.pow_le_pow_right (by omega) h))

theorem ext {a b : UInt64} (h : ∀ i < 64, a.toNat.testBit i = b.toNat.testBit i) : a = b := by
  apply UInt64.toNat_inj.mp
  apply Nat.eq_of_testBit_eq
  intro i
  by_cases hi : i < 64
  · exact h i hi
  · rw [testBit_of_le a (by omega), testBit_of_le b (by omega)]

theorem ne_zero_iff (x : UInt64) : x ≠ 0 ↔ ∃ i, x.toNat.testBit i := by
  constructor
  · intro h
    exact Nat.exists_testBit_of_ne_zero (fun h0 => h (UInt64.toNat_inj.mp h0))
  · rintro ⟨i, hi⟩ rfl
    rw [testBit_zero] at hi
    cases hi

/-- The word with only bit `k` set. -/
theorem testBit_one_shiftLeft {k : Nat} (hk : k < 64) (i : Nat) :
    ((1 : UInt64) <<< k.toUInt64).toNat.testBit i = decide (k = i) := by
  have hlt : 2 ^ k < 2 ^ 64 := Nat.pow_lt_pow_right (by omega) hk
  rw [UInt64.toNat_shiftLeft, UInt64.toNat_one, Nat.toUInt64, UInt64.toNat_ofNat',
    Nat.mod_eq_of_lt (by omega : k < 2 ^ 64), Nat.mod_eq_of_lt hk, Nat.one_shiftLeft,
    Nat.mod_eq_of_lt hlt, Nat.testBit_two_pow]

theorem shiftRight_and_one_eq_zero (bits : UInt64) {i : Nat} (hi : i < 64) :
    (bits >>> i.toUInt64) &&& 1 = 0 ↔ bits.toNat.testBit i = false := by
  rw [← UInt64.toNat_inj, UInt64.toNat_and, UInt64.toNat_shiftRight, UInt64.toNat_one,
    Nat.and_one_is_mod, Nat.toUInt64, UInt64.toNat_ofNat', Nat.mod_eq_of_lt (by omega : i < 2 ^ 64),
    Nat.mod_eq_of_lt hi, UInt64.toNat_zero, Nat.testBit, Nat.one_and_eq_mod_two]
  simp

/-- What a fold does to one property of its accumulator, when each step
either keeps it or establishes it. -/
theorem foldl_or_iff {σ α : Type} (f : σ → α → σ) (Q : σ → Prop) (P : α → Prop)
    (hf : ∀ acc a, Q (f acc a) ↔ Q acc ∨ P a) :
    ∀ (l : List α) (acc : σ), Q (l.foldl f acc) ↔ Q acc ∨ ∃ a ∈ l, P a
  | [], acc => by simp
  | a :: l, acc => by
    rw [List.foldl_cons, foldl_or_iff f Q P hf l, hf]
    simp only [List.mem_cons, exists_eq_or_imp]
    tauto

end Bitfield

open Bitfield

/-! ## The bit of an entry -/

namespace EnumEntry

theorem testBit_bit (e : EnumEntry) (i : Nat) :
    e.bit.toNat.testBit i = (decide (i < 64) && decide (e.value.toInt = i)) := by
  dsimp only [bit]
  apply Bool.eq_iff_iff.mpr
  split
  case isTrue hout =>
    simp only [testBit_zero, Bool.false_eq_true, false_iff, Bool.and_eq_true, decide_eq_true_eq]
    omega
  case isFalse hin =>
    rw [testBit_one_shiftLeft (by omega)]
    simp only [decide_eq_true_eq, Bool.and_eq_true]
    omega

theorem testBit_bit_of_value {e : EnumEntry} {i : Nat} (hi : i < 64) (hv : e.value.toInt = i) :
    e.bit.toNat.testBit i := by
  simp [testBit_bit, hi, hv]

theorem value_of_testBit_bit {e : EnumEntry} {i : Nat} (h : e.bit.toNat.testBit i) :
    i < 64 ∧ e.value.toInt = i := by
  simpa [testBit_bit] using h

end EnumEntry

/-! ## The table's readings -/

namespace EnumTable

variable {t : EnumTable} {bits : UInt64} {i : Nat}

theorem byName?_name (hnd : (t.values.map (·.name)).Nodup) {x : EnumEntry} (hx : x ∈ t.values) :
    t.byName? x.name = some x :=
  (List.find?_key_eq_some hnd).mpr ⟨hx, rfl⟩

theorem mem_flags {e : EnumEntry} :
    e ∈ t.flags bits ↔ e ∈ t.values ∧ ∃ i, e.bit.toNat.testBit i ∧ bits.toNat.testBit i := by
  simp only [flags, List.mem_filter, Bool.and_eq_true, bne_iff_ne, ne_zero_iff, testBit_and]
  constructor
  · rintro ⟨he, -, j, hj⟩
    exact ⟨he, j, hj.2, hj.1⟩
  · rintro ⟨he, j, hbit, hset⟩
    exact ⟨he, ⟨j, hbit⟩, j, by simp [hbit, hset]⟩

theorem testBit_unknownBits :
    (t.unknownBits bits).toNat.testBit i ↔
      bits.toNat.testBit i ∧ ∀ e ∈ t.values, e.bit.toNat.testBit i = false := by
  -- clearing an entry's bit either keeps bit `i` clear or clears it
  have key := foldl_or_iff (fun acc e => acc &&& ~~~e.bit) (fun x : UInt64 => x.toNat.testBit i = false)
    (fun e : EnumEntry => e.bit.toNat.testBit i = true) (fun acc e => by
      by_cases hi : i < 64
      · rw [testBit_and, testBit_not]
        cases acc.toNat.testBit i <;> simp [hi]
      · simp [testBit_of_le _ (Nat.le_of_not_lt hi)])
    t.values bits
  simp only [unknownBits]
  conv_lhs => rw [← Bool.not_eq_false, key]
  simp

theorem testBit_mask (names : List String) :
    (t.mask names).toNat.testBit i ↔ ∃ n ∈ names, ∃ e, t.byName? n = some e ∧ e.bit.toNat.testBit i := by
  unfold mask
  rw [foldl_or_iff _ (fun x : UInt64 => x.toNat.testBit i = true)
    (fun n => ∃ e, t.byName? n = some e ∧ e.bit.toNat.testBit i), testBit_zero]
  · simp
  · intro acc n
    cases h : t.byName? n <;> simp

theorem testBit_mask_flags (hnd : (t.values.map (·.name)).Nodup) :
    (t.mask ((t.flags bits).map (·.name))).toNat.testBit i ↔
      bits.toNat.testBit i ∧ ∃ e ∈ t.values, e.bit.toNat.testBit i := by
  rw [testBit_mask]
  constructor
  · rintro ⟨n, hn, e, he, hbit⟩
    obtain ⟨x, hx, rfl⟩ := List.mem_map.mp hn
    obtain ⟨hxv, j, hxj, hset⟩ := mem_flags.mp hx
    rw [byName?_name hnd hxv] at he
    have hxe : x = e := Option.some.inj he
    subst hxe
    -- an entry's mask has one bit, so `j` is `i`
    obtain ⟨-, hj⟩ := EnumEntry.value_of_testBit_bit hxj
    obtain ⟨-, hi⟩ := EnumEntry.value_of_testBit_bit hbit
    have hji : j = i := by omega
    subst hji
    exact ⟨hset, x, hxv, hbit⟩
  · rintro ⟨hset, e, he, hbit⟩
    exact ⟨e.name, List.mem_map_of_mem (mem_flags.mpr ⟨he, i, hbit, hset⟩), e,
      byName?_name hnd he, hbit⟩

end EnumTable

/-! ## The rendering -/

/-- The tokens that bit `i` of `bits` may render as against `t`: the name of
a flag of `t.flags bits` on that bit, or `UNKNOWN(i)` for an unknown bit. -/
inductive BitToken (t : EnumTable) (bits : UInt64) : Nat → String → Prop
  | flag {e : EnumEntry} {i : Nat} :
      e ∈ t.flags bits → e.bit.toNat.testBit i → BitToken t bits i e.name
  | unknown {i : Nat} : (t.unknownBits bits).toNat.testBit i → BitToken t bits i s!"UNKNOWN({i})"

namespace BitToken

variable {t : EnumTable} {bits : UInt64}

/-- A bit renders as one token at most: flags have distinct bits, none of
them unknown. -/
theorem unique (hnd : (t.values.map (·.value)).Nodup) {i : Nat} {a b : String}
    (ha : BitToken t bits i a) (hb : BitToken t bits i b) : a = b := by
  cases ha with
  | flag he hbit =>
    cases hb with
    | flag he' hbit' =>
      have hv : _ = _ := Int32.toInt_inj.mp
        ((EnumEntry.value_of_testBit_bit hbit).2.trans (EnumEntry.value_of_testBit_bit hbit').2.symm)
      rw [List.inj_on_of_nodup_map hnd (EnumTable.mem_flags.mp he).1 (EnumTable.mem_flags.mp he').1 hv]
    | unknown hu =>
      have hclear := (EnumTable.testBit_unknownBits.mp hu).2 _ (EnumTable.mem_flags.mp he).1
      simp [hclear] at hbit
  | unknown hu =>
    cases hb with
    | flag he' hbit' =>
      have hclear := (EnumTable.testBit_unknownBits.mp hu).2 _ (EnumTable.mem_flags.mp he').1
      simp [hclear] at hbit'
    | unknown => rfl

/-- Bit `i` below 64 of a bitfield renders, through the look-up by value,
as one of its tokens. -/
theorem of_lookup {i : Nat} (hi : i < 64) (hset : bits.toNat.testBit i) :
    BitToken t bits i (((t.byValue? (Int32.ofNat i)).map (·.name)).getD s!"UNKNOWN({i})") := by
  have hval : ∀ e : EnumEntry, e.value = Int32.ofNat i ↔ e.value.toInt = i := fun e => by
    rw [← Int32.toInt_inj, Int32.toInt_ofNat_of_lt (by omega)]
  cases h : t.byValue? (Int32.ofNat i) with
  | some e =>
    have he : e ∈ t.values := List.mem_of_find?_eq_some h
    have hv : e.value.toInt = i := (hval e).mp (by simpa using List.find?_some h)
    have hbit := EnumEntry.testBit_bit_of_value hi hv
    exact .flag (EnumTable.mem_flags.mpr ⟨he, i, hbit, hset⟩) hbit
  | none =>
    -- no entry has the value, so no entry has the bit
    have hnone : ∀ e ∈ t.values, e.bit.toNat.testBit i = false := by
      intro e he
      have hne : e.value ≠ Int32.ofNat i := by simpa using List.find?_eq_none.mp h e he
      simp only [EnumEntry.testBit_bit, hi, decide_true, Bool.true_and, decide_eq_false_iff_not]
      exact fun hv => hne ((hval e).mpr hv)
    exact .unknown (EnumTable.testBit_unknownBits.mpr ⟨hset, hnone⟩)

end BitToken

/-- A list filtered by a test, against the same list mapped to optional
tokens that exist exactly where the test holds. -/
theorem forall₂_filter_filterMap {α β : Type} {R : α → β → Prop} {p : α → Bool}
    {g : α → Option β} : ∀ l : List α, (∀ a ∈ l, ∀ b, g a = some b → R a b) →
      (∀ a ∈ l, (g a).isSome = p a) → List.Forall₂ R (l.filter p) (l.filterMap g)
  | [], _, _ => .nil
  | a :: l, hg, hsome => by
    have ih := forall₂_filter_filterMap l (fun x hx => hg x (List.mem_cons_of_mem a hx))
      (fun x hx => hsome x (List.mem_cons_of_mem a hx))
    have hp := hsome a List.mem_cons_self
    cases h : g a with
    | none =>
      rw [h] at hp
      simpa [List.filter_cons, ← hp, h] using ih
    | some b =>
      rw [h] at hp
      simpa [List.filter_cons, ← hp, h] using List.Forall₂.cons (hg a List.mem_cons_self b h) ih

theorem renderBitfield_tokens (t : EnumTable) {bits : UInt64} (hbits : bits ≠ 0) :
    ∃ tokens, renderBitfield t bits = "|".intercalate tokens ∧
      List.Forall₂ (BitToken t bits) ((List.range 64).filter (bits.toNat.testBit ·)) tokens := by
  refine ⟨_, if_neg hbits, forall₂_filter_filterMap _ (fun i hi tok h => ?_) (fun i hi => ?_)⟩
  · have hi : i < 64 := List.mem_range.mp hi
    split at h
    case isTrue => cases h
    case isFalse hset =>
      cases h
      have hset : bits.toNat.testBit i = true := by
        simpa [shiftRight_and_one_eq_zero bits hi] using hset
      exact BitToken.of_lookup hi hset
  · have hi : i < 64 := List.mem_range.mp hi
    split
    case isTrue hclear => simp [(shiftRight_and_one_eq_zero bits hi).mp hclear]
    case isFalse hset => simpa [shiftRight_and_one_eq_zero bits hi] using hset

/-- What the two readings of a bitfield promise together: the flags and the
unknown bits split it into two disjoint parts, each bit renders as one token
at most, and the rendering is `0` for no bit and otherwise the tokens of the
set bits in ascending order. -/
structure ReadingsAgree (t : EnumTable) (bits : UInt64) : Prop where
  parts_cover : t.mask ((t.flags bits).map (·.name)) ||| t.unknownBits bits = bits
  parts_disjoint : t.mask ((t.flags bits).map (·.name)) &&& t.unknownBits bits = 0
  token_unique : ∀ i a b, BitToken t bits i a → BitToken t bits i b → a = b
  render_zero : bits = 0 → renderBitfield t bits = "0"
  render_tokens : bits ≠ 0 → ∃ tokens, renderBitfield t bits = "|".intercalate tokens ∧
    List.Forall₂ (BitToken t bits) ((List.range 64).filter (bits.toNat.testBit ·)) tokens

/-- In a table of distinct names and values, the helpers and the rendering
read every bitfield alike. -/
theorem bitfield_readings_agree (t : EnumTable) (hnames : (t.values.map (·.name)).Nodup)
    (hvalues : (t.values.map (·.value)).Nodup) (bits : UInt64) : ReadingsAgree t bits := by
  refine ⟨ext fun i _ => ?_, ext fun i _ => ?_, fun i a b => BitToken.unique hvalues,
    fun h => if_pos h, renderBitfield_tokens t⟩
  all_goals
    have hk : (t.mask ((t.flags bits).map (·.name))).toNat.testBit i ↔ _ :=
      EnumTable.testBit_mask_flags hnames
    have hu : (t.unknownBits bits).toNat.testBit i ↔ _ := EnumTable.testBit_unknownBits
  · -- every set bit is named by an entry or unknown, and no other bit is either
    rw [testBit_or]
    apply Bool.eq_iff_iff.mpr
    rw [Bool.or_eq_true, hk, hu]
    constructor
    · rintro (⟨h, -⟩ | ⟨h, -⟩) <;> exact h
    · intro h
      by_cases hex : ∃ e ∈ t.values, e.bit.toNat.testBit i
      · exact .inl ⟨h, hex⟩
      · exact .inr ⟨h, fun e he => by simpa using fun hb => hex ⟨e, he, hb⟩⟩
  · -- a bit named by an entry is not unknown
    rw [testBit_and, testBit_zero, Bool.eq_false_iff]
    intro h
    rw [Bool.and_eq_true, hk, hu] at h
    obtain ⟨⟨-, e, he, hb⟩, -, hnone⟩ := h
    rw [hnone e he] at hb
    cases hb

def listFlags : EnumTable :=
  ⟨"ListFlags", [⟨"First", 0⟩, ⟨"Last", 1⟩, ⟨"Empty", 2⟩, ⟨"Remove", 3⟩]⟩

/-- The first and the empty flag with the unknown bit 6. -/
theorem bitfield_readings_listFlags :
    (listFlags.values.map (·.name)).Nodup ∧ (listFlags.values.map (·.value)).Nodup ∧
      ReadingsAgree listFlags 69 :=
  ⟨by decide, by decide, bitfield_readings_agree listFlags (by decide) (by decide) 69⟩

example : renderBitfield listFlags 69 = "First|Empty|UNKNOWN(6)" := by decide

end DroneProtocol
