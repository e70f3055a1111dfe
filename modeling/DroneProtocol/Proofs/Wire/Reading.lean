import DroneProtocol.Wire.Decode

/-! # Reading what was written

The facts every codec proof opens the cursor with: a cursor over `bs ++ rest`
takes `bs`, little-endian words read back, and a body is peeled one sub-frame
at a time. A fold of `Except` steps is run once here (`foldlM_run`). -/

namespace DroneProtocol

namespace Except

variable {ε ε' α β : Type}

@[simp] theorem ok_bind (a : α) (f : α → Except ε β) : (Except.ok a >>= f) = f a := rfl

@[simp] theorem error_bind (e : ε) (f : α → Except ε β) : (Except.error e >>= f) = .error e := rfl

@[simp] theorem pure_eq_ok (a : α) : (pure a : Except ε α) = .ok a := rfl

@[simp] theorem throw_eq_error (e : ε) : (throw e : Except ε α) = .error e := rfl

@[simp] theorem map_ok (f : α → β) (a : α) : (f <$> Except.ok a : Except ε β) = .ok (f a) := rfl

@[simp] theorem mapError_ok (f : ε → ε') (a : α) : (Except.ok a : Except ε α).mapError f = .ok a :=
  rfl

@[simp] theorem mapError_error (f : ε → ε') (e : ε) :
    (Except.error e : Except ε α).mapError f = .error (f e) := rfl

@[simp] theorem bind_ok (x : Except ε α) : (x >>= fun a => Except.ok a) = x := by
  cases x <;> rfl

theorem bind_eq_ok {x : Except ε α} {f : α → Except ε β} {b : β} :
    x >>= f = .ok b ↔ ∃ a, x = .ok a ∧ f a = .ok b := by
  cases x <;> simp

theorem mapError_eq_ok {x : Except ε α} {f : ε → ε'} {a : α} :
    x.mapError f = .ok a ↔ x = .ok a := by
  cases x <;> simp

end Except

section Fold

variable {α β ε : Type} {f : β → α → Except ε β}

/-- The run of a fold from the run of one step: an invariant indexed by the
elements folded so far. -/
theorem foldlM_run {I : List α → β → Prop}
    (step : ∀ {p : List α} {a : α} {b b' : β}, I p b → f b a = .ok b' → I (p ++ [a]) b') :
    ∀ {l p : List α} {b b' : β}, I p b → l.foldlM f b = .ok b' → I (p ++ l) b'
  | [], p, b, b', hi, h => by
    simp only [List.foldlM_nil, Except.pure_eq_ok, Except.ok.injEq] at h
    simpa [← h] using hi
  | a :: l, p, b, b', hi, h => by
    obtain ⟨b₁, h₁, hrest⟩ := Except.bind_eq_ok.mp h
    simpa using foldlM_run step (step hi h₁) hrest

theorem foldlM_run_nil {I : List α → β → Prop}
    (step : ∀ {p : List α} {a : α} {b b' : β}, I p b → f b a = .ok b' → I (p ++ [a]) b')
    {l : List α} {b b' : β} (hi : I [] b) (h : l.foldlM f b = .ok b') : I l b' := by
  simpa using foldlM_run step hi h

theorem foldlM_inv {I : β → Prop}
    (step : ∀ {t t' : β} {a : α}, I t → f t a = .ok t' → I t')
    {l : List α} {t t' : β} (hi : I t) (h : l.foldlM f t = .ok t') : I t' :=
  foldlM_run_nil (I := fun _ => I) (fun hi hs => step hi hs) hi h

theorem foldlM_forall {P : α → Prop} (step : ∀ {t t' : β} {a : α}, f t a = .ok t' → P a)
    {l : List α} {t t' : β} (h : l.foldlM f t = .ok t') : ∀ a ∈ l, P a :=
  foldlM_run_nil (I := fun p _ => ∀ a ∈ p, P a)
    (fun hi hs a ha => (List.mem_append.mp ha).elim (hi a) fun ha => by
      rw [List.mem_singleton.mp ha]
      exact step hs)
    (by simp) h

theorem foldlM_exists {l : List α} {I : List α → β → Prop}
    (step : ∀ {p : List α} {a : α} {t : β}, p ++ [a] <+: l → I p t →
      ∃ t', f t a = .ok t' ∧ I (p ++ [a]) t') :
    ∀ {p r : List α} {t : β}, p ++ r = l → I p t → ∃ t', r.foldlM f t = .ok t' ∧ I l t'
  | p, [], t, hl, hi => ⟨t, rfl, by rwa [← hl, List.append_nil]⟩
  | p, a :: r, t, hl, hi => by
    have hl' : p ++ [a] ++ r = l := by rw [← hl, List.append_assoc, List.singleton_append]
    obtain ⟨t₁, h₁, hi₁⟩ := step ⟨r, hl'⟩ hi
    obtain ⟨t', h', hi'⟩ := foldlM_exists step hl' hi₁
    exact ⟨t', by rw [List.foldlM_cons, h₁, Except.ok_bind, h'], hi'⟩

theorem foldlM_exists_of_inv {l : List α} {I : β → Prop}
    (step : ∀ {a : α} {t : β}, a ∈ l → I t → ∃ t', f t a = .ok t' ∧ I t') {t : β}
    (hi : I t) :
    ∃ t', l.foldlM f t = .ok t' ∧ I t' :=
  foldlM_exists (I := fun _ => I) (fun hpre hi => step (hpre.subset (by simp)) hi)
    (List.nil_append l) hi

end Fold

namespace LittleEndian

theorem bytes_value : ∀ (bs : List UInt8), bytes bs.length (value bs) = bs
  | [] => rfl
  | b :: rest => by
    have hb : b.toNat < 256 := b.toNat_lt
    have hlow : (b.toNat + 256 * value rest) % 256 = b.toNat := by omega
    have hhigh : (b.toNat + 256 * value rest) / 256 = value rest := by omega
    simp only [List.length_cons, bytes, value, hlow, hhigh, bytes_value rest]
    simp [Nat.toUInt8]

theorem value_lt : ∀ (bs : List UInt8), value bs < Nat.pow 256 bs.length
  | [] => by simp [value]
  | b :: rest => by
    have hb : b.toNat < 256 := b.toNat_lt
    have ih := value_lt rest
    have hpow : Nat.pow 256 (rest.length + 1) = 256 * Nat.pow 256 rest.length := Nat.mul_comm _ _
    simp only [value, List.length_cons, hpow]
    omega

end LittleEndian

namespace Cursor

theorem take_append (bs rest : List UInt8) (off : Nat) :
    (⟨bs ++ rest, off⟩ : Cursor).take bs.length = .ok (bs, ⟨rest, off + bs.length⟩) := by
  simp [take]

theorem word_bytes (w n : Nat) (rest : List UInt8) (off : Nat) :
    (⟨LittleEndian.bytes w n ++ rest, off⟩ : Cursor).word w =
      .ok (n % Nat.pow 256 w, ⟨rest, off + w⟩) := by
  have h := take_append (LittleEndian.bytes w n) rest off
  simp only [LittleEndian.length_bytes] at h
  simp [word, h, LittleEndian.value_bytes]

theorem word_bytes_of_lt {w n : Nat} (h : n < Nat.pow 256 w) (rest : List UInt8) (off : Nat) :
    (⟨LittleEndian.bytes w n ++ rest, off⟩ : Cursor).word w = .ok (n, ⟨rest, off + w⟩) := by
  rw [word_bytes, Nat.mod_eq_of_lt h]

theorem word_eq_ok {c : Cursor} {w n : Nat} {c' : Cursor} (h : c.word w = .ok (n, c')) :
    ∃ bs, bs.length = w ∧ c.rest = bs ++ c'.rest ∧ c'.offset = c.offset + w ∧
      n = LittleEndian.value bs := by
  simp only [word, take] at h
  split at h
  · simp only [Except.pure_eq_ok, Except.ok_bind, Except.ok.injEq, Prod.mk.injEq] at h
    obtain ⟨rfl, rfl⟩ := h
    refine ⟨c.rest.take w, by simp; omega, by simp, rfl, rfl⟩
  · cases h

theorem take_eq_ok {c : Cursor} {n : Nat} {bs : List UInt8} {c' : Cursor}
    (h : c.take n = .ok (bs, c')) :
    bs.length = n ∧ c.rest = bs ++ c'.rest ∧ c'.offset = c.offset + n := by
  simp only [take] at h
  split at h
  · simp only [Except.pure_eq_ok, Except.ok.injEq, Prod.mk.injEq] at h
    obtain ⟨rfl, rfl⟩ := h
    exact ⟨by simp; omega, by simp, rfl⟩
  · cases h

end Cursor

@[simp] theorem subframes_nil (fuel off : Nat) : subframes fuel ⟨[], off⟩ = ([], none) := by
  cases fuel <;> simp [subframes]

theorem subframes_cons (fuel : Nat) (raw rest : List UInt8) (off : Nat) (h : raw.length < 65536) :
    subframes (fuel + 1) ⟨LittleEndian.bytes 2 raw.length ++ raw ++ rest, off⟩ =
      ((raw :: (subframes fuel ⟨rest, off + 2 + raw.length⟩).1),
        (subframes fuel ⟨rest, off + 2 + raw.length⟩).2) := by
  have hword := Cursor.word_bytes_of_lt (show raw.length < Nat.pow 256 2 from h) (raw ++ rest) off
  have htake := Cursor.take_append raw rest (off + 2)
  simp only [subframes, List.append_assoc, hword, htake]
  rfl

end DroneProtocol
