import DroneProtocol.Bytes.Utf8

/-! # Reading back the UTF-8 of a text

One lemma per form of the decoder and one per length of the encoder meet in
`step?_utf8EncodeChar`. Main statements: `decode?_encode_append`, so
`decode?_encode` reads every text back, and `scalars?_cont`, a byte string
that starts with a continuation byte is not UTF-8. -/

namespace DroneProtocol.Utf8

/-! ## The decoder, one form at a time -/

theorem step?_one {b : UInt8} (hb : b.toNat < 0x80) (rest : List UInt8) :
    step? (b :: rest) = some (b.toNat, ⟨rest, Nat.lt_succ_self _⟩) := by
  have : b < 0x80 := UInt8.lt_iff_toNat_lt.2 hb
  simp only [step?, this, if_true]

theorem step?_two {b c : UInt8} (hb : 0xC2 ≤ b.toNat ∧ b.toNat ≤ 0xDF)
    (hc : 0x80 ≤ c.toNat ∧ c.toNat ≤ 0xBF) (rest : List UInt8) :
    step? (b :: c :: rest) =
      some ((b.toNat % 32) * 64 + low c, ⟨rest, by simp only [List.length_cons]; omega⟩) := by
  simp only [step?, isCont, UInt8.lt_iff_toNat_lt, UInt8.le_iff_toNat_le, UInt8.reduceToNat,
    Bool.and_eq_true, decide_eq_true_eq]
  rw [if_neg (by omega), if_pos hb, if_pos hc]

theorem step?_three {b c₁ c₂ : UInt8} (hb : 0xE0 ≤ b.toNat ∧ b.toNat ≤ 0xEF)
    (h₁ : (if b.toNat = 0xE0 then 0xA0 else 0x80) ≤ c₁.toNat ∧
      c₁.toNat ≤ (if b.toNat = 0xED then 0x9F else 0xBF))
    (h₂ : 0x80 ≤ c₂.toNat ∧ c₂.toNat ≤ 0xBF) (rest : List UInt8) :
    step? (b :: c₁ :: c₂ :: rest) =
      some ((b.toNat % 16) * 4096 + low c₁ * 64 + low c₂,
        ⟨rest, by simp only [List.length_cons]; omega⟩) := by
  simp only [step?, isCont, UInt8.lt_iff_toNat_lt, UInt8.le_iff_toNat_le, ← UInt8.toNat_inj,
    UInt8.reduceToNat, apply_ite UInt8.toNat, Bool.and_eq_true, decide_eq_true_eq]
  rw [if_neg (by omega), if_neg (by omega), if_pos hb, if_pos ⟨h₁, h₂⟩]

theorem step?_four {b c₁ c₂ c₃ : UInt8} (hb : 0xF0 ≤ b.toNat ∧ b.toNat ≤ 0xF4)
    (h₁ : (if b.toNat = 0xF0 then 0x90 else 0x80) ≤ c₁.toNat ∧
      c₁.toNat ≤ (if b.toNat = 0xF4 then 0x8F else 0xBF))
    (h₂ : 0x80 ≤ c₂.toNat ∧ c₂.toNat ≤ 0xBF) (h₃ : 0x80 ≤ c₃.toNat ∧ c₃.toNat ≤ 0xBF)
    (rest : List UInt8) :
    step? (b :: c₁ :: c₂ :: c₃ :: rest) =
      some ((b.toNat % 8) * 262144 + low c₁ * 4096 + low c₂ * 64 + low c₃,
        ⟨rest, by simp only [List.length_cons]; omega⟩) := by
  simp only [step?, isCont, UInt8.lt_iff_toNat_lt, UInt8.le_iff_toNat_le, ← UInt8.toNat_inj,
    UInt8.reduceToNat, apply_ite UInt8.toNat, Bool.and_eq_true, decide_eq_true_eq]
  rw [if_neg (by omega), if_neg (by omega), if_neg (by omega), if_pos hb, if_pos ⟨⟨h₁, h₂⟩, h₃⟩]

theorem step?_cont {b : UInt8} (hb : 0x80 ≤ b.toNat ∧ b.toNat ≤ 0xBF) (rest : List UInt8) :
    step? (b :: rest) = none := by
  simp only [step?, UInt8.lt_iff_toNat_lt, UInt8.le_iff_toNat_le, UInt8.reduceToNat,
    Bool.and_eq_true, decide_eq_true_eq]
  rw [if_neg (by omega), if_neg (by omega), if_neg (by omega), if_neg (by omega)]

/-! ## The encoder, one length at a time -/

section Encode

variable {c : Char}

theorem utf8EncodeChar_one (h : c.toNat ≤ 0x7F) :
    String.utf8EncodeChar c = [UInt8.ofNat c.toNat] := by
  simp [String.utf8EncodeChar, h]

theorem utf8EncodeChar_two (h₁ : 0x7F < c.toNat) (h₂ : c.toNat ≤ 0x7FF) :
    String.utf8EncodeChar c =
      [UInt8.ofNat (c.toNat / 64 % 32 + 0xC0), UInt8.ofNat (c.toNat % 64 + 0x80)] := by
  simp [String.utf8EncodeChar, Nat.not_le.2 h₁, h₂]

theorem utf8EncodeChar_three (h₂ : 0x7FF < c.toNat) (h₃ : c.toNat ≤ 0xFFFF) :
    String.utf8EncodeChar c =
      [UInt8.ofNat (c.toNat / 4096 % 16 + 0xE0), UInt8.ofNat (c.toNat / 64 % 64 + 0x80),
        UInt8.ofNat (c.toNat % 64 + 0x80)] := by
  simp [String.utf8EncodeChar, show ¬ c.toNat ≤ 0x7F by omega, Nat.not_le.2 h₂, h₃]

theorem utf8EncodeChar_four (h₃ : 0xFFFF < c.toNat) :
    String.utf8EncodeChar c =
      [UInt8.ofNat (c.toNat / 262144 % 8 + 0xF0), UInt8.ofNat (c.toNat / 4096 % 64 + 0x80),
        UInt8.ofNat (c.toNat / 64 % 64 + 0x80), UInt8.ofNat (c.toNat % 64 + 0x80)] := by
  simp [String.utf8EncodeChar, show ¬ c.toNat ≤ 0x7F by omega, show ¬ c.toNat ≤ 0x7FF by omega,
    Nat.not_le.2 h₃]

/-- Beyond ASCII a character takes a leading byte and at least one
continuation byte. -/
theorem utf8EncodeChar_of_ge (h : 0x80 ≤ c.toNat) :
    ∃ b b' bs, String.utf8EncodeChar c = b :: b' :: bs ∧ 0x80 ≤ b.toNat ∧
      0x80 ≤ b'.toNat ∧ b'.toNat ≤ 0xBF := by
  by_cases h₂ : c.toNat ≤ 0x7FF
  case pos =>
    rw [utf8EncodeChar_two (by omega) h₂]
    exact ⟨_, _, _, rfl, by simp only [UInt8.toNat_ofNat']; omega⟩
  by_cases h₃ : c.toNat ≤ 0xFFFF
  case pos =>
    rw [utf8EncodeChar_three (by omega) h₃]
    exact ⟨_, _, _, rfl, by simp only [UInt8.toNat_ofNat']; omega⟩
  case neg =>
    rw [utf8EncodeChar_four (by omega)]
    exact ⟨_, _, _, rfl, by simp only [UInt8.toNat_ofNat']; omega⟩

/-- The decoder reads a character's bytes back as the character. -/
theorem step?_utf8EncodeChar (c : Char) (rest : List UInt8) :
    ∃ h, step? (String.utf8EncodeChar c ++ rest) = some (c.toNat, ⟨rest, h⟩) := by
  -- a character is no surrogate half and at most U+10FFFF
  have hv : c.toNat < 0xD800 ∨ 0xDFFF < c.toNat ∧ c.toNat < 0x110000 := c.valid
  by_cases h₁ : c.toNat ≤ 0x7F
  case pos =>
    rw [utf8EncodeChar_one h₁, List.singleton_append,
      step?_one (by rw [UInt8.toNat_ofNat']; omega)]
    simp only [UInt8.toNat_ofNat', Option.some.injEq, Prod.mk.injEq]
    exact ⟨by simp, by omega, trivial⟩
  by_cases h₂ : c.toNat ≤ 0x7FF
  case pos =>
    rw [utf8EncodeChar_two (by omega) h₂, List.cons_append, List.cons_append, List.nil_append,
      step?_two (by simp only [UInt8.toNat_ofNat']; omega) (by simp only [UInt8.toNat_ofNat']; omega)]
    simp only [low, UInt8.toNat_ofNat', Option.some.injEq, Prod.mk.injEq]
    exact ⟨by simp only [List.length_cons]; omega, by omega, trivial⟩
  by_cases h₃ : c.toNat ≤ 0xFFFF
  case pos =>
    rw [utf8EncodeChar_three (by omega) h₃, List.cons_append, List.cons_append, List.cons_append,
      List.nil_append,
      step?_three (by simp only [UInt8.toNat_ofNat']; omega)
        (by simp only [UInt8.toNat_ofNat']; split <;> split <;> omega)
        (by simp only [UInt8.toNat_ofNat']; omega)]
    simp only [low, UInt8.toNat_ofNat', Option.some.injEq, Prod.mk.injEq]
    exact ⟨by simp only [List.length_cons]; omega, by omega, trivial⟩
  case neg =>
    rw [utf8EncodeChar_four (by omega), List.cons_append, List.cons_append, List.cons_append,
      List.cons_append, List.nil_append,
      step?_four (by simp only [UInt8.toNat_ofNat']; omega)
        (by simp only [UInt8.toNat_ofNat']; split <;> split <;> omega)
        (by simp only [UInt8.toNat_ofNat']; omega) (by simp only [UInt8.toNat_ofNat']; omega)]
    simp only [low, UInt8.toNat_ofNat', Option.some.injEq, Prod.mk.injEq]
    exact ⟨by simp only [List.length_cons]; omega, by omega, trivial⟩

end Encode

/-! ## Whole byte strings -/

theorem scalars?_of_step {bs rest : List UInt8} {v : Nat} {h : rest.length < bs.length}
    (hstep : step? bs = some (v, ⟨rest, h⟩)) : scalars? bs = (scalars? rest).map (v :: ·) := by
  have hne : bs.isEmpty = false := by
    cases bs
    · simp at h
    · rfl
  rw [scalars?, hne, hstep]
  rfl

/-- A byte string that starts with a continuation byte is not UTF-8. -/
theorem scalars?_cont {b : UInt8} (hb : 0x80 ≤ b.toNat ∧ b.toNat ≤ 0xBF) (rest : List UInt8) :
    scalars? (b :: rest) = none := by
  rw [scalars?, step?_cont hb]
  rfl

theorem scalars?_encode_append :
    ∀ (cs : List Char) (bs : List UInt8),
      scalars? (cs.flatMap String.utf8EncodeChar ++ bs) = (scalars? bs).map (cs.map Char.toNat ++ ·)
  | [], bs => by simp
  | c :: cs, bs => by
    obtain ⟨_, hstep⟩ := step?_utf8EncodeChar c (cs.flatMap String.utf8EncodeChar ++ bs)
    rw [List.flatMap_cons, List.append_assoc, scalars?_of_step hstep, scalars?_encode_append cs bs,
      Option.map_map]
    rfl

theorem encode_ofList (cs : List Char) : encode (String.ofList cs) = cs.flatMap String.utf8EncodeChar := by
  simp [encode]

/-- Decoding the encoding of a text followed by more bytes reads the text and
goes on with the rest. -/
theorem decode?_encode_append (t : String) (bs : List UInt8) :
    decode? (encode t ++ bs) = (decode? bs).map (t ++ ·) := by
  simp only [decode?, encode, scalars?_encode_append, Option.map_map]
  congr 1
  funext vs
  simp [Function.comp_def, String.ofList_append]

theorem decode?_encode (t : String) : decode? (encode t) = some t := by
  have hnil : decode? [] = some "" := by
    rw [decode?, scalars?]
    rfl
  rw [← List.append_nil (encode t), decode?_encode_append, hnil]
  simp

theorem encode_injective {t u : String} (h : encode t = encode u) : t = u := by
  have ht := decode?_encode t
  rw [h, decode?_encode, Option.some.injEq] at ht
  exact ht.symm

theorem encode_append (t u : String) : encode (t ++ u) = encode t ++ encode u := by
  simp [encode, String.toList_append]

end DroneProtocol.Utf8
