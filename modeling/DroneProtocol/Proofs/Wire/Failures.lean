import DroneProtocol.Proofs.Wire.Encoding

/-! # Where encoding and decoding fail

Both stop at the first argument that fails and name it with its position and
cause; the command fails at index -1 only before any argument or after all of
them. Main statement: `codec_failures_name_first_argument`. -/

namespace DroneProtocol

open CodecOptions

variable {o : CodecOptions}

/-! ## Encoding -/

/-- The arguments `as` accept the values `vs` one by one, each on its own,
writing the bytes `bs`. -/
inductive EncodesEach (o : CodecOptions) : List Arg → List Value → List UInt8 → Prop
  | nil : EncodesEach o [] [] []
  | cons {a : Arg} {as : List Arg} {v : Value} {vs : List Value} {b bs : List UInt8} :
      o.encodeArg a v = .ok b → EncodesEach o as vs bs → EncodesEach o (a :: as) (v :: vs) (b ++ bs)

/-- Argument `i` of `args`, which is `a`, is the first to reject its own value,
for `cause`: every argument before it accepts its own. -/
def FirstRejected (o : CodecOptions) (args : List Arg) (vs : List Value) (i : Nat) (a : Arg)
    (cause : WireError) : Prop :=
  args[i]? = some a ∧ (∃ v, vs[i]? = some v ∧ o.encodeArg a v = .error cause) ∧
    ∃ pre, EncodesEach o (args.take i) (vs.take i) pre

section Encoding

variable {a a' : Arg} {as : List Arg} {v : Value} {vs : List Value} {cause : WireError}

theorem encodesEach_nil_iff {vs : List Value} {bs : List UInt8} :
    EncodesEach o [] vs bs ↔ vs = [] ∧ bs = [] := by
  constructor
  · rintro ⟨⟩
    exact ⟨rfl, rfl⟩
  · rintro ⟨rfl, rfl⟩
    exact .nil

theorem encodesEach_cons_iff {bs : List UInt8} :
    EncodesEach o (a :: as) (v :: vs) bs ↔
      ∃ b rest, o.encodeArg a v = .ok b ∧ EncodesEach o as vs rest ∧ bs = b ++ rest := by
  constructor
  · rintro (_ | ⟨hb, hrest⟩)
    exact ⟨_, _, hb, hrest, rfl⟩
  · rintro ⟨b, rest, hb, hrest, rfl⟩
    exact .cons hb hrest

theorem not_firstRejected_nil {i : Nat} : ¬ FirstRejected o [] vs i a cause := by
  simp [FirstRejected]

theorem firstRejected_zero :
    FirstRejected o (a :: as) (v :: vs) 0 a' cause ↔ a' = a ∧ o.encodeArg a v = .error cause := by
  simp only [FirstRejected, List.getElem?_cons_zero, Option.some.injEq, exists_eq_left',
    List.take_zero, encodesEach_nil_iff, true_and, exists_eq, and_true]
  exact ⟨fun ⟨h, hc⟩ => ⟨h.symm, h ▸ hc⟩, fun ⟨h, hc⟩ => ⟨h.symm, h ▸ hc⟩⟩

theorem firstRejected_succ {j : Nat} :
    FirstRejected o (a :: as) (v :: vs) (j + 1) a' cause ↔
      (∃ b, o.encodeArg a v = .ok b) ∧ FirstRejected o as vs j a' cause := by
  simp only [FirstRejected, List.getElem?_cons_succ, List.take_succ_cons, encodesEach_cons_iff]
  constructor
  · rintro ⟨ha, hv, pre, b, rest, hb, hrest, -⟩
    exact ⟨⟨b, hb⟩, ha, hv, rest, hrest⟩
  · rintro ⟨⟨b, hb⟩, ha, hv, rest, hrest⟩
    exact ⟨ha, hv, b ++ rest, b, rest, hb, hrest, rfl⟩

theorem encodeEach_cons_eq_error {cmd : String} {i : Nat} {e : WireError} :
    o.encodeEach cmd i (a :: as) (v :: vs) = .error e ↔
      (∃ c, o.encodeArg a v = .error c ∧ e = .encode cmd i a.name c) ∨
        (∃ b, o.encodeArg a v = .ok b) ∧ o.encodeEach cmd (i + 1) as vs = .error e := by
  simp only [encodeEach]
  rcases ha : o.encodeArg a v with c | b
  · simp [eq_comm]
  · rcases hrest : o.encodeEach cmd (i + 1) as vs with e' | rest <;> simp

theorem encodeEach_eq_ok_iff (cmd : String) :
    ∀ (i : Nat) (as : List Arg) (vs : List Value), vs.length = as.length → ∀ bs : List UInt8,
      o.encodeEach cmd i as vs = .ok bs ↔ EncodesEach o as vs bs
  | i, [], vs, hlen, bs => by
    rw [List.length_eq_zero_iff.mp hlen]
    simp only [encodeEach_nil, Except.ok.injEq, encodesEach_nil_iff, true_and, eq_comm]
  | i, a :: as, [], hlen, _ => absurd hlen (by simp)
  | i, a :: as, v :: vs, hlen, bs => by
    have ih := encodeEach_eq_ok_iff cmd (i + 1) as vs (by simpa using hlen)
    rw [encodeEach_cons, encodesEach_cons_iff]
    simp only [ih]

/-- Encoding values in turn fails at the first argument that rejects its own
value, which the failure names with its position. -/
theorem encodeEach_eq_error_iff (cmd : String) :
    ∀ (i : Nat) (as : List Arg) (vs : List Value), vs.length = as.length → ∀ e : WireError,
      o.encodeEach cmd i as vs = .error e ↔
        ∃ j a cause, FirstRejected o as vs j a cause ∧ e = .encode cmd ↑(i + j) a.name cause
  | i, [], vs, _, e => by simp [not_firstRejected_nil]
  | i, a :: as, [], hlen, _ => absurd hlen (by simp)
  | i, a :: as, v :: vs, hlen, e => by
    have ih := encodeEach_eq_error_iff cmd (i + 1) as vs (by simpa using hlen) e
    rw [encodeEach_cons_eq_error, ih]
    -- position `j` of the rest is position `j + 1` here
    have hpos : ∀ j : Nat, i + 1 + j = i + (j + 1) := fun j => by omega
    constructor
    · rintro (⟨c, hc, rfl⟩ | ⟨hb, j, a', c, hr, rfl⟩)
      · exact ⟨0, a, c, firstRejected_zero.mpr ⟨rfl, hc⟩, rfl⟩
      · exact ⟨j + 1, a', c, firstRejected_succ.mpr ⟨hb, hr⟩, by rw [hpos]⟩
    · rintro ⟨_ | j, a', c, hr, rfl⟩
      · obtain ⟨rfl, hc⟩ := firstRejected_zero.mp hr
        exact .inl ⟨c, hc, rfl⟩
      · obtain ⟨hb, hr⟩ := firstRejected_succ.mp hr
        exact .inr ⟨hb, j, a', c, hr, by rw [hpos]⟩

end Encoding

/-- The payload of a command is the bytes its arguments write, each accepting
its own value, when there are as many values as arguments and the payload
is within a positive size limit. -/
theorem encodeArgs_eq_ok_iff {cmd : Command} {vs : List Value} {bs : List UInt8} :
    o.encodeArgs cmd vs = .ok bs ↔
      vs.length = cmd.args.length ∧ EncodesEach o cmd.args vs bs ∧
        ¬ (0 < o.maxPayload ∧ o.maxPayload < bs.length) := by
  rw [encodeArgs_eq_ok]
  constructor
  · rintro ⟨hlen, he, hmax⟩
    exact ⟨hlen, (encodeEach_eq_ok_iff cmd.name 0 _ _ hlen bs).mp he, by omega⟩
  · rintro ⟨hlen, he, hmax⟩
    exact ⟨hlen, (encodeEach_eq_ok_iff cmd.name 0 _ _ hlen bs).mpr he, by omega⟩

section Command

variable {cmd : Command} {vs : List Value}

theorem encodesEach_length {as : List Arg} {vs : List Value} {bs : List UInt8}
    (h : EncodesEach o as vs bs) : vs.length = as.length := by
  induction h with
  | nil => rfl
  | cons _ _ ih => simp [ih]

theorem encodeArgs_of_length_ne (hlen : vs.length ≠ cmd.args.length) :
    o.encodeArgs cmd vs = .error (.encode cmd.name (-1) "" (.argCount cmd.args.length vs.length)) := by
  rw [encodeArgs.eq_def]
  simp [hlen]

theorem encodeArgs_of_firstRejected {i : Nat} {a : Arg} {cause : WireError}
    (hlen : vs.length = cmd.args.length) (hr : FirstRejected o cmd.args vs i a cause) :
    o.encodeArgs cmd vs = .error (.encode cmd.name i a.name cause) := by
  have he : o.encodeEach cmd.name 0 cmd.args vs = .error (.encode cmd.name i a.name cause) :=
    (encodeEach_eq_error_iff cmd.name 0 _ _ hlen _).mpr ⟨i, a, cause, hr, by rw [Nat.zero_add]⟩
  rw [encodeArgs.eq_def]
  simp [hlen, he]

theorem encodeArgs_of_encodesEach {bs : List UInt8} (h : EncodesEach o cmd.args vs bs) :
    o.encodeArgs cmd vs = if 0 < o.maxPayload ∧ o.maxPayload < bs.length then
      .error (.encode cmd.name (-1) "" (.payloadTooLarge bs.length o.maxPayload.toNat))
    else .ok bs := by
  have hlen := encodesEach_length h
  have he : o.encodeEach cmd.name 0 cmd.args vs = .ok bs := (encodeEach_eq_ok_iff cmd.name 0 _ _ hlen bs).mpr h
  rw [encodeArgs.eq_def]
  simp only [hlen, ne_eq, not_true_eq_false, ↓reduceIte, he, Except.ok_bind]
  split <;> rfl

theorem encodesEach_or_firstRejected (hlen : vs.length = cmd.args.length) :
    (∃ bs, EncodesEach o cmd.args vs bs) ∨ ∃ i a cause, FirstRejected o cmd.args vs i a cause := by
  rcases he : o.encodeEach cmd.name 0 cmd.args vs with e | bs
  · obtain ⟨i, a, cause, hr, -⟩ := (encodeEach_eq_error_iff cmd.name 0 _ _ hlen e).mp he
    exact .inr ⟨i, a, cause, hr⟩
  · exact .inl ⟨bs, (encodeEach_eq_ok_iff cmd.name 0 _ _ hlen bs).mp he⟩

/-- Encoding a command fails in three ways: for a wrong number of values, at
the first argument that rejects its own value, or for a payload over a
positive size limit once every argument accepted its value. -/
theorem encodeArgs_eq_error_iff {e : WireError} :
    o.encodeArgs cmd vs = .error e ↔
      (vs.length ≠ cmd.args.length ∧
        e = .encode cmd.name (-1) "" (.argCount cmd.args.length vs.length)) ∨
      (vs.length = cmd.args.length ∧ ∃ i a cause, FirstRejected o cmd.args vs i a cause ∧
        e = .encode cmd.name i a.name cause) ∨
      (vs.length = cmd.args.length ∧ ∃ bs, EncodesEach o cmd.args vs bs ∧
        0 < o.maxPayload ∧ o.maxPayload < bs.length ∧
        e = .encode cmd.name (-1) "" (.payloadTooLarge bs.length o.maxPayload.toNat)) := by
  constructor
  · intro h
    by_cases hlen : vs.length = cmd.args.length
    · rcases encodesEach_or_firstRejected hlen with ⟨bs, hbs⟩ | ⟨i, a, cause, hr⟩
      · rw [encodeArgs_of_encodesEach hbs] at h
        split at h
        case isTrue hover => exact .inr (.inr ⟨hlen, bs, hbs, hover.1, hover.2, (Except.error.inj h).symm⟩)
        case isFalse => cases h
      · rw [encodeArgs_of_firstRejected hlen hr] at h
        exact .inr (.inl ⟨hlen, i, a, cause, hr, (Except.error.inj h).symm⟩)
    · rw [encodeArgs_of_length_ne hlen] at h
      exact .inl ⟨hlen, (Except.error.inj h).symm⟩
  · rintro (⟨hlen, rfl⟩ | ⟨hlen, i, a, cause, hr, rfl⟩ | ⟨-, bs, hbs, hpos, hover, rfl⟩)
    · exact encodeArgs_of_length_ne hlen
    · exact encodeArgs_of_firstRejected hlen hr
    · rw [encodeArgs_of_encodesEach hbs, if_pos ⟨hpos, hover⟩]

/-- A failure of the command itself, at index -1, comes exactly from a wrong
number of values, or from a payload over a positive size limit once every
argument accepted its value. -/
theorem encodeArgs_command_failure_iff :
    (∃ name cause, o.encodeArgs cmd vs = .error (.encode cmd.name (-1) name cause)) ↔
      vs.length ≠ cmd.args.length ∨
        ∃ bs, EncodesEach o cmd.args vs bs ∧ 0 < o.maxPayload ∧ o.maxPayload < bs.length := by
  simp only [encodeArgs_eq_error_iff]
  constructor
  · rintro ⟨name, cause, ⟨hlen, -⟩ | ⟨-, i, a, c, -, he⟩ | ⟨-, bs, hbs, hpos, hover, -⟩⟩
    · exact .inl hlen
    · -- an argument's failure carries its position, never -1
      simp only [WireError.encode.injEq] at he
      omega
    · exact .inr ⟨bs, hbs, hpos, hover⟩
  · rintro (hlen | ⟨bs, hbs, hpos, hover⟩)
    · exact ⟨"", _, .inl ⟨hlen, rfl⟩⟩
    · exact ⟨"", _, .inr (.inr ⟨encodesEach_length hbs, bs, hbs, hpos, hover, rfl⟩)⟩

end Command

/-! ## Decoding -/

/-- The arguments `as` read the values `vs` one after another, from the cursor
`c` to the cursor `c'`. -/
inductive ReadsEach (o : CodecOptions) (body : BodyReader) (cat : Catalog) :
    List Arg → Cursor → List Value → Cursor → Prop
  | nil (c : Cursor) : ReadsEach o body cat [] c [] c
  | cons {a : Arg} {as : List Arg} {c c₁ c₂ : Cursor} {v : Value} {vs : List Value} :
      o.decodeArgWith body cat a c = .ok (v, c₁) → ReadsEach o body cat as c₁ vs c₂ →
      ReadsEach o body cat (a :: as) c (v :: vs) c₂

/-- Argument `i` of `args`, which is `a`, is the first that cannot be read
from the cursor `c`, for `cause`: the arguments before it read one after
another, and it cannot be read where they end. -/
def FirstUnreadable (o : CodecOptions) (body : BodyReader) (cat : Catalog) (args : List Arg)
    (c : Cursor) (i : Nat) (a : Arg) (cause : WireError) : Prop :=
  args[i]? = some a ∧
    ∃ vs c', ReadsEach o body cat (args.take i) c vs c' ∧ o.decodeArgWith body cat a c' = .error cause

section Decoding

variable {body : BodyReader} {cat : Catalog} {a a' : Arg} {as : List Arg} {c c₁ c' : Cursor}
  {v : Value} {vs : List Value} {cause : WireError}

theorem readsEach_nil_iff : ReadsEach o body cat [] c vs c' ↔ vs = [] ∧ c' = c := by
  constructor
  · rintro ⟨⟩
    exact ⟨rfl, rfl⟩
  · rintro ⟨rfl, rfl⟩
    exact .nil _

theorem readsEach_cons_of_ok (h : o.decodeArgWith body cat a c = .ok (v, c₁)) :
    ReadsEach o body cat (a :: as) c vs c' ↔ ∃ vs', ReadsEach o body cat as c₁ vs' c' ∧ vs = v :: vs' := by
  constructor
  · rintro (_ | ⟨h₁, hrest⟩)
    rw [h₁] at h
    obtain ⟨rfl, rfl⟩ := Prod.mk.inj (Except.ok.inj h)
    exact ⟨_, hrest, rfl⟩
  · rintro ⟨vs', hrest, rfl⟩
    exact .cons h hrest

theorem not_readsEach_cons_of_error (h : o.decodeArgWith body cat a c = .error cause) :
    ¬ ReadsEach o body cat (a :: as) c vs c' := by
  rintro (_ | ⟨h₁, -⟩)
  rw [h₁] at h
  cases h

theorem not_firstUnreadable_nil {i : Nat} : ¬ FirstUnreadable o body cat [] c i a cause := by
  simp [FirstUnreadable]

theorem firstUnreadable_cons_of_error {x : WireError} {j : Nat}
    (h : o.decodeArgWith body cat a c = .error x) :
    FirstUnreadable o body cat (a :: as) c j a' cause ↔ j = 0 ∧ a' = a ∧ cause = x := by
  cases j with
  | zero =>
    simp only [FirstUnreadable, List.getElem?_cons_zero, Option.some.injEq, List.take_zero,
      readsEach_nil_iff, true_and]
    constructor
    · rintro ⟨rfl, vs, c', ⟨-, rfl⟩, hc⟩
      rw [h] at hc
      exact ⟨rfl, (Except.error.inj hc).symm⟩
    · rintro ⟨rfl, rfl⟩
      exact ⟨rfl, [], c, ⟨rfl, rfl⟩, h⟩
  | succ j =>
    simp only [FirstUnreadable, List.take_succ_cons, Nat.add_one_ne_zero, false_and, iff_false]
    rintro ⟨-, vs, c', hr, -⟩
    exact not_readsEach_cons_of_error h hr

/-- After an argument that reads, the first that cannot is one of the rest,
from where it ends. -/
theorem firstUnreadable_cons_of_ok {j : Nat} (h : o.decodeArgWith body cat a c = .ok (v, c₁)) :
    FirstUnreadable o body cat (a :: as) c j a' cause ↔
      ∃ k, j = k + 1 ∧ FirstUnreadable o body cat as c₁ k a' cause := by
  cases j with
  | zero =>
    simp only [FirstUnreadable, List.getElem?_cons_zero, Option.some.injEq, List.take_zero,
      readsEach_nil_iff]
    constructor
    · rintro ⟨rfl, vs, c', ⟨-, rfl⟩, hc⟩
      rw [h] at hc
      cases hc
    · rintro ⟨k, hk, -⟩
      omega
  | succ j =>
    simp only [FirstUnreadable, List.getElem?_cons_succ, List.take_succ_cons,
      readsEach_cons_of_ok h, Nat.add_right_cancel_iff, exists_eq_left']
    constructor
    · rintro ⟨ha, vs, c', ⟨vs', hr, -⟩, hc⟩
      exact ⟨ha, vs', c', hr, hc⟩
    · rintro ⟨ha, vs', c', hr, hc⟩
      exact ⟨ha, v :: vs', c', ⟨vs', hr, rfl⟩, hc⟩

variable (cmd : Command) {i : Nat}

theorem go_nil (i : Nat) (c : Cursor) :
    decodeArgsWith.go body cat o cmd i [] c = if c.rest.isEmpty then .ok [] else
      .error (.decode cmd.name cmd.identity (-1) "" (.trailing c.rest.length cmd.args.length)) := by
  simp only [decodeArgsWith.go]
  split <;> rfl

theorem go_cons_of_error {x : WireError} (h : o.decodeArgWith body cat a c = .error x) :
    decodeArgsWith.go body cat o cmd i (a :: as) c = .error (.decode cmd.name cmd.identity i a.name x) := by
  simp [decodeArgsWith.go, h]

theorem go_cons_of_ok (h : o.decodeArgWith body cat a c = .ok (v, c₁)) :
    decodeArgsWith.go body cat o cmd i (a :: as) c =
      decodeArgsWith.go body cat o cmd (i + 1) as c₁ >>= fun vs => pure (v :: vs) := by
  simp only [decodeArgsWith.go, h, Except.mapError_ok, Except.ok_bind]

/-- Reading arguments in turn succeeds exactly when each reads where the one
before it ends and the last ends with the bytes. -/
theorem go_eq_ok_iff : ∀ (i : Nat) (as : List Arg) (c : Cursor) (vs : List Value),
    decodeArgsWith.go body cat o cmd i as c = .ok vs ↔
      ∃ c', ReadsEach o body cat as c vs c' ∧ c'.rest = []
  | i, [], c, vs => by
    rw [go_nil]
    simp only [readsEach_nil_iff]
    split
    case isTrue hrest =>
      constructor
      · intro h
        exact ⟨c, ⟨(Except.ok.inj h).symm, rfl⟩, List.isEmpty_iff.mp hrest⟩
      · rintro ⟨c', ⟨rfl, rfl⟩, -⟩
        rfl
    case isFalse hrest =>
      constructor
      · intro h
        cases h
      · rintro ⟨c', ⟨rfl, rfl⟩, hc⟩
        exact absurd (List.isEmpty_iff.mpr hc) hrest
  | i, a :: as, c, vs => by
    rcases ha : o.decodeArgWith body cat a c with x | ⟨v, c₁⟩
    · rw [go_cons_of_error cmd ha]
      simp [not_readsEach_cons_of_error ha]
    · rw [go_cons_of_ok cmd ha]
      simp only [readsEach_cons_of_ok ha, Except.bind_eq_ok, go_eq_ok_iff (i + 1) as c₁,
        Except.pure_eq_ok, Except.ok.injEq]
      constructor
      · rintro ⟨vs', ⟨c', hr, hc⟩, rfl⟩
        exact ⟨c', ⟨vs', hr, rfl⟩, hc⟩
      · rintro ⟨c', ⟨vs', hr, rfl⟩, hc⟩
        exact ⟨vs', ⟨c', hr, hc⟩, rfl⟩

theorem bind_pure_eq_error {α β : Type} {x : Except WireError α} {f : α → β} {e : WireError} :
    (x >>= fun a => pure (f a)) = .error e ↔ x = .error e := by
  cases x <;> simp

/-- Reading arguments in turn fails at the first argument that cannot be read
where the ones before it end, named with its position, or for bytes left
after the last one. -/
theorem go_eq_error_iff : ∀ (i : Nat) (as : List Arg) (c : Cursor) (e : WireError),
    decodeArgsWith.go body cat o cmd i as c = .error e ↔
      (∃ j a cause, FirstUnreadable o body cat as c j a cause ∧
        e = .decode cmd.name cmd.identity ↑(i + j) a.name cause) ∨
      (∃ vs c', ReadsEach o body cat as c vs c' ∧ c'.rest ≠ [] ∧
        e = .decode cmd.name cmd.identity (-1) "" (.trailing c'.rest.length cmd.args.length))
  | i, [], c, e => by
    rw [go_nil]
    simp only [not_firstUnreadable_nil, false_and, exists_false, false_or, readsEach_nil_iff]
    split
    case isTrue hrest =>
      constructor
      · intro h
        cases h
      · rintro ⟨vs, c', ⟨rfl, rfl⟩, hc, -⟩
        exact absurd (List.isEmpty_iff.mp hrest) hc
    case isFalse hrest =>
      constructor
      · intro h
        exact ⟨[], c, ⟨rfl, rfl⟩, fun hc => hrest (List.isEmpty_iff.mpr hc), (Except.error.inj h).symm⟩
      · rintro ⟨vs, c', ⟨rfl, rfl⟩, -, rfl⟩
        rfl
  | i, a :: as, c, e => by
    rcases ha : o.decodeArgWith body cat a c with x | ⟨v, c₁⟩
    · rw [go_cons_of_error cmd ha]
      simp only [firstUnreadable_cons_of_error ha, not_readsEach_cons_of_error ha, false_and,
        exists_false, or_false, Except.error.injEq]
      constructor
      · rintro rfl
        exact ⟨0, a, x, ⟨rfl, rfl, rfl⟩, rfl⟩
      · rintro ⟨j, a', c', ⟨rfl, rfl, rfl⟩, rfl⟩
        rfl
    · rw [go_cons_of_ok cmd ha, bind_pure_eq_error, go_eq_error_iff (i + 1) as c₁ e]
      simp only [firstUnreadable_cons_of_ok ha, readsEach_cons_of_ok ha]
      -- position `k` of the rest is position `k + 1` here
      have hpos : ∀ k : Nat, i + 1 + k = i + (k + 1) := fun k => by omega
      constructor
      · rintro (⟨k, a', x, hr, rfl⟩ | ⟨vs, c', hr, hc, rfl⟩)
        · exact .inl ⟨k + 1, a', x, ⟨k, rfl, hr⟩, by rw [hpos]⟩
        · exact .inr ⟨v :: vs, c', ⟨vs, hr, rfl⟩, hc, rfl⟩
      · rintro (⟨_, a', x, ⟨k, rfl, hr⟩, rfl⟩ | ⟨_, c', ⟨vs, hr, rfl⟩, hc, rfl⟩)
        · exact .inl ⟨k, a', x, hr, by rw [hpos]⟩
        · exact .inr ⟨vs, c', hr, hc, rfl⟩

variable {p : List UInt8}

theorem decodeArgsWith_eq_ok_iff :
    o.decodeArgsWith body cat cmd p = .ok vs ↔
      ∃ c, ReadsEach o body cat cmd.args ⟨p, 0⟩ vs c ∧ c.rest = [] :=
  go_eq_ok_iff cmd 0 cmd.args ⟨p, 0⟩ vs

theorem decodeArgsWith_eq_error_iff {e : WireError} :
    o.decodeArgsWith body cat cmd p = .error e ↔
      (∃ i a cause, FirstUnreadable o body cat cmd.args ⟨p, 0⟩ i a cause ∧
        e = .decode cmd.name cmd.identity i a.name cause) ∨
      (∃ vs c, ReadsEach o body cat cmd.args ⟨p, 0⟩ vs c ∧ c.rest ≠ [] ∧
        e = .decode cmd.name cmd.identity (-1) "" (.trailing c.rest.length cmd.args.length)) := by
  rw [show o.decodeArgsWith body cat cmd p = decodeArgsWith.go body cat o cmd 0 cmd.args ⟨p, 0⟩ from rfl,
    go_eq_error_iff]
  simp only [Nat.zero_add]

/-- A failure of the command itself, at index -1, comes exactly from bytes
left after every argument was read. -/
theorem decodeArgsWith_command_failure_iff :
    (∃ name cause, o.decodeArgsWith body cat cmd p =
        .error (.decode cmd.name cmd.identity (-1) name cause)) ↔
      ∃ vs c, ReadsEach o body cat cmd.args ⟨p, 0⟩ vs c ∧ c.rest ≠ [] := by
  simp only [decodeArgsWith_eq_error_iff]
  constructor
  · rintro ⟨name, cause, ⟨i, a, x, -, he⟩ | ⟨vs, c, hr, hc, -⟩⟩
    · -- an argument's failure carries its position, never -1
      simp only [WireError.decode.injEq] at he
      omega
    · exact ⟨vs, c, hr, hc⟩
  · rintro ⟨vs, c, hr, hc⟩
    exact ⟨"", _, .inr ⟨vs, c, hr, hc, rfl⟩⟩

end Decoding

/-- Encoding and decoding fail all at once and name the first argument that
fails. Encoding a command gives its whole payload, the bytes its arguments
write when each accepts its own value, or one failure of the command: at the
position and name of the first argument to reject its own value, with that
argument's own cause, when there are as many values as arguments; at index
-1 exactly for a wrong number of values, or for a payload over a positive size
limit once every argument accepted its value. Decoding a payload gives a value
for every argument, read one after another from the start to the end of the
bytes, or one failure of the command: at the position and name of the first
argument that cannot be read where the ones before it end, with its own cause;
at index -1 exactly for bytes left after the last argument. -/
theorem codec_failures_name_first_argument (o : CodecOptions) (cat : Catalog) (cmd : Command) :
    (∀ vs bs, o.encodeArgs cmd vs = .ok bs ↔
      vs.length = cmd.args.length ∧ EncodesEach o cmd.args vs bs ∧
        ¬ (0 < o.maxPayload ∧ o.maxPayload < bs.length)) ∧
    (∀ vs e, o.encodeArgs cmd vs = .error e ↔
      (vs.length ≠ cmd.args.length ∧
        e = .encode cmd.name (-1) "" (.argCount cmd.args.length vs.length)) ∨
      (vs.length = cmd.args.length ∧ ∃ i a cause, FirstRejected o cmd.args vs i a cause ∧
        e = .encode cmd.name i a.name cause) ∨
      (vs.length = cmd.args.length ∧ ∃ bs, EncodesEach o cmd.args vs bs ∧
        0 < o.maxPayload ∧ o.maxPayload < bs.length ∧
        e = .encode cmd.name (-1) "" (.payloadTooLarge bs.length o.maxPayload.toNat))) ∧
    (∀ vs, (∃ name cause, o.encodeArgs cmd vs = .error (.encode cmd.name (-1) name cause)) ↔
      vs.length ≠ cmd.args.length ∨
        ∃ bs, EncodesEach o cmd.args vs bs ∧ 0 < o.maxPayload ∧ o.maxPayload < bs.length) ∧
    (∀ p vs, o.decodeArgs cat cmd p = .ok vs ↔
      ∃ c, ReadsEach o (o.bodyReader cat (p.length + 1)) cat cmd.args ⟨p, 0⟩ vs c ∧ c.rest = []) ∧
    (∀ p e, o.decodeArgs cat cmd p = .error e ↔
      (∃ i a cause, FirstUnreadable o (o.bodyReader cat (p.length + 1)) cat cmd.args ⟨p, 0⟩ i a cause ∧
        e = .decode cmd.name cmd.identity i a.name cause) ∨
      (∃ vs c, ReadsEach o (o.bodyReader cat (p.length + 1)) cat cmd.args ⟨p, 0⟩ vs c ∧
        c.rest ≠ [] ∧
        e = .decode cmd.name cmd.identity (-1) "" (.trailing c.rest.length cmd.args.length))) ∧
    (∀ p, (∃ name cause, o.decodeArgs cat cmd p =
        .error (.decode cmd.name cmd.identity (-1) name cause)) ↔
      ∃ vs c, ReadsEach o (o.bodyReader cat (p.length + 1)) cat cmd.args ⟨p, 0⟩ vs c ∧
        c.rest ≠ []) :=
  ⟨fun _ _ => encodeArgs_eq_ok_iff, fun _ _ => encodeArgs_eq_error_iff,
    fun _ => encodeArgs_command_failure_iff, fun _ _ => decodeArgsWith_eq_ok_iff cmd,
    fun _ _ => decodeArgsWith_eq_error_iff cmd, fun _ => decodeArgsWith_command_failure_iff cmd⟩

def byteCommand : Command :=
  { name := "f.B", feature := 2, cls := 0, id := 0, args := [{ name := "b", type := .u8 }] }

/-- A size limit below zero sets no limit: every argument of `f.B` accepts
its value and the payload is longer than the limit, yet encoding succeeds. -/
theorem encodeArgs_negative_limit_succeeds :
    EncodesEach { maxPayload := -1 } byteCommand.args [.u8 5] [5] ∧
      (-1 : Int) < ([5] : List UInt8).length ∧
      ({ maxPayload := -1 } : CodecOptions).encodeArgs byteCommand [.u8 5] = .ok [5] := by
  have hb : ({ maxPayload := -1 } : CodecOptions).encodeArg { name := "b", type := .u8 } (.u8 5) =
      .ok [5] := by
    rw [encodeArg_eq_ok]
    exact .u8 5 rfl
  have he : EncodesEach { maxPayload := -1 } byteCommand.args [.u8 5] [5] :=
    show EncodesEach _ _ _ ([5] ++ []) from .cons hb .nil
  refine ⟨he, by decide, ?_⟩
  rw [encodeArgs_of_encodesEach he, if_neg (by decide)]

end DroneProtocol
