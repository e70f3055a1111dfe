import DroneProtocol.Proofs.Wire.RoundTrip
import DroneProtocol.Proofs.Wire.Decoded

/-! # Decoding then encoding

Decoding forgets only inside multisets; `CanonicalArgs` is the grammar of the
payloads where nothing is forgotten. Main statement:
`encodeArgs_decodeArgs_iff`, re-encoding gives a payload back exactly when it
is within the codec's limit and canonical. -/

namespace DroneProtocol

open CodecOptions

mutual

/-- Payload bytes that decoding and re-encoding leave as they are: a scalar
argument is the encoding of one of its values, and a multiset argument is a
canonical region of the declaration its reference resolves to. -/
inductive CanonicalArgs (cat : Catalog) (o : CodecOptions) : List Arg → List UInt8 → Prop
  | nil : CanonicalArgs cat o [] []
  | scalar {a : Arg} {as : List Arg} {v : Value} {bs rest : List UInt8} :
      a.type ≠ .multiset → ArgBytes o a v bs → CanonicalArgs cat o as rest →
      CanonicalArgs cat o (a :: as) (bs ++ rest)
  | multiset {a : Arg} {as : List Arg} {r : MultisetRef} {d : MultisetDecl}
      {body rest : List UInt8} :
      a.type = .multiset → a.multiset = some r → cat.resolve? r = some d →
      body.length < 65536 → CanonicalRegion cat o d 0 body → CanonicalArgs cat o as rest →
      CanonicalArgs cat o (a :: as) (LittleEndian.bytes 2 body.length ++ body ++ rest)

/-- A multiset body of `d` made of sub-frames of members from slot `k` on, each
member at most once and in slot order, each payload canonical. -/
inductive CanonicalRegion (cat : Catalog) (o : CodecOptions) :
    MultisetDecl → Nat → List UInt8 → Prop
  | nil {d : MultisetDecl} {k : Nat} : CanonicalRegion cat o d k []
  | cons {d : MultisetDecl} {k i : Nat} {m : Command} {payload rest : List UInt8} :
      d.members[i]? = some m → k ≤ i → headerSize + payload.length < 65536 →
      CanonicalArgs cat o m.args payload → CanonicalRegion cat o d (i + 1) rest →
      CanonicalRegion cat o d k
        (LittleEndian.bytes 2 (headerSize + payload.length) ++ m.identity.header ++ payload ++ rest)

end

variable {o : CodecOptions} {cat : Catalog}

theorem CanonicalRegion.mono {d : MultisetDecl} {k k' : Nat} {body : List UInt8}
    (h : CanonicalRegion cat o d k' body) (hk : k ≤ k') : CanonicalRegion cat o d k body := by
  cases h with
  | nil => exact .nil
  | cons hi hki hsize hargs hrest => exact .cons hi (by omega) hsize hargs hrest

/-! ## Encoding writes canonical payloads -/

mutual

theorem CanonicalArgs.cons_encodeArg {a : Arg} {as : List Arg} {v : Value} {bs rest : List UInt8}
    (hv : v.InCatalog cat) (h : o.encodeArg a v = .ok bs) (hrest : CanonicalArgs cat o as rest) :
    CanonicalArgs cat o (a :: as) (bs ++ rest) := by
  -- keep `v` apart from the value the cases fix, for the termination measure
  generalize hw : v = w at h hv
  cases encodeArg_eq_ok.mp h
  case multiset m r ha hr hm hs =>
    obtain ⟨body, hlen, hbody, hlt, rfl⟩ := encodeSlotsOf_eq_ok.mp hs
    obtain ⟨hres, hin⟩ := hv.multiset_inv
    rw [hm] at hres
    exact .multiset ha hr hres hlt
      (canonicalRegion_of_encodeSlots m.decl.members m.slots 0 (by simp) hin hbody) hrest
  all_goals exact .scalar (by simp_all) (encodeArg_eq_ok.mp h) hrest
termination_by sizeOf v
decreasing_by
  subst hw
  simp only [Value.multiset.sizeOf_spec, Option.some.sizeOf_spec]
  exact Nat.lt_of_lt_of_le (Slots.sizeOf_slots_lt _) (by omega)

/-- What encoding writes for a list of arguments is canonical. -/
theorem canonicalArgs_of_encodeEach {name : String} :
    ∀ {i : Nat} {as : List Arg} {vs : List Value} {bs : List UInt8},
      vs.length = as.length → (∀ v ∈ vs, v.InCatalog cat) →
      o.encodeEach name i as vs = .ok bs → CanonicalArgs cat o as bs
  | _, [], [], bs, _, _, h => by
    simp only [encodeEach_nil, Except.ok.injEq] at h
    subst h
    exact .nil
  | _, a :: as, v :: vs, bs, hlen, hin, h => by
    obtain ⟨here, rest, hhere, hrest, rfl⟩ := encodeEach_cons.mp h
    exact CanonicalArgs.cons_encodeArg (hin v (by simp)) hhere
      (canonicalArgs_of_encodeEach (by simpa using hlen) (fun w hw => hin w (by simp [hw])) hrest)
  | _, [], _ :: _, _, hlen, _, _ => by simp at hlen
  | _, _ :: _, [], _, hlen, _, _ => by simp at hlen
termination_by _ _ vs => sizeOf vs

/-- What encoding writes for the slots of the members of `d` from slot `k` on
is a canonical region from slot `k` on. -/
theorem canonicalRegion_of_encodeSlots {d : MultisetDecl} :
    ∀ (ms : List Command) (ss : List (Option (List Value))) (k : Nat) {body : List UInt8},
      d.members.drop k = ms → (∀ s ∈ ss, ∀ vs ∈ s, ∀ w ∈ vs, w.InCatalog cat) →
      o.encodeSlots ms ss = .ok body → CanonicalRegion cat o d k body
  | [], _, _, body, _, _, h => by
    simp only [encodeSlots_nil_left, Except.ok.injEq] at h
    subst h
    exact .nil
  | _ :: _, [], _, body, _, _, h => by
    simp only [encodeSlots_nil_right, Except.ok.injEq] at h
    subst h
    exact .nil
  | m :: ms, s :: ss, k, body, hdrop, hin, h => by
    obtain ⟨here, rest, hs, hrest, rfl⟩ := encodeSlots_cons.mp h
    have hdrop' : d.members.drop (k + 1) = ms := by
      rw [← List.drop_drop, hdrop, List.drop_one, List.tail_cons]
    have hin' : ∀ s ∈ ss, ∀ vs ∈ s, ∀ w ∈ vs, w.InCatalog cat :=
      fun s hs => hin s (List.mem_cons_of_mem _ hs)
    have hregion := canonicalRegion_of_encodeSlots ms ss (k + 1) hdrop' hin' hrest
    cases hs with
    | unset => exact hregion.mono (Nat.le_succ k)
    | set vs payload hp hsize =>
      have hk : d.members[k]? = some m := by
        have h0 : (d.members.drop k)[0]? = some m := by rw [hdrop]; rfl
        rwa [List.getElem?_drop, Nat.add_zero] at h0
      obtain ⟨hlen, heach, -⟩ := encodeArgs_eq_ok.mp hp
      have hargs := canonicalArgs_of_encodeEach hlen (fun w hw => hin (some vs) (by simp) vs
        (by simp) w hw) heach
      simpa only [List.append_assoc] using .cons hk (Nat.le_refl k) hsize hargs hregion
termination_by _ ss => sizeOf ss

end

/-! ## Canonical payloads are encodings -/

theorem limit_of_le {m n : Nat} (h : o.maxPayload ≤ 0 ∨ (n : Int) ≤ o.maxPayload) (hmn : m ≤ n) :
    o.maxPayload ≤ 0 ∨ (m : Int) ≤ o.maxPayload := by
  omega

theorem encodeSlots_replicate_none :
    ∀ (n : Nat) (ms : List Command) (ss : List (Option (List Value))), n ≤ ms.length →
      o.encodeSlots ms (List.replicate n none ++ ss) = o.encodeSlots (ms.drop n) ss
  | 0, _, _, _ => rfl
  | n + 1, m :: ms, ss, h => by
    have ih := encodeSlots_replicate_none n ms ss (by simpa using h)
    simp [List.replicate_succ, encodeSlots, ih]
  | _ + 1, [], _, h => by simp at h

theorem ArgBytes.not_multiset {a : Arg} {v : Value} {bs : List UInt8} (h : ArgBytes o a v bs)
    (ha : a.type ≠ .multiset) (m : MultisetValue) : v ≠ .multiset (some m) := by
  rintro rfl
  cases h with
  | enum _ e _ he => simp [enumEntryOf] at he
  | bitfield _ _ _ hb => simp [encodeBits] at hb
  | multiset _ _ _ hm => exact ha hm

mutual

/-- Every canonical payload is what encoding writes for some values. -/
theorem CanonicalArgs.exists_encodeEach (name : String) :
    ∀ (i : Nat) {as : List Arg} {bs : List UInt8}, CanonicalArgs cat o as bs →
      (∀ a ∈ as, a.WellFormed cat) → (∀ d, cat.Reaches as d → d.WellFormed cat) →
      (o.maxPayload ≤ 0 ∨ (bs.length : Int) ≤ o.maxPayload) →
      ∃ vs, vs.length = as.length ∧ (∀ v ∈ vs, v.InCatalog cat) ∧
        o.encodeEach name i as vs = .ok bs
  | _, _, _, .nil, _, _, _ => ⟨[], rfl, by simp, by simp⟩
  | i, _, _, @CanonicalArgs.scalar _ _ a as v bs rest ha hv hrest, hwf, hreach, hmax => by
    obtain ⟨vs, hlen, hin, heach⟩ := CanonicalArgs.exists_encodeEach name (i + 1) hrest
      (fun a ha => hwf a (by simp [ha])) (fun d hd => hreach d (hd.mono (by simp +contextual)))
      (limit_of_le hmax (by simp))
    refine ⟨v :: vs, by simp [hlen], ?_, encodeEach_cons.mpr ⟨bs, rest, encodeArg_eq_ok.mpr hv,
      heach, rfl⟩⟩
    intro w hw
    rcases List.mem_cons.mp hw with rfl | hw
    · exact .leaf (hv.not_multiset ha)
    · exact hin w hw
  | i, _, _, @CanonicalArgs.multiset _ _ a as r d body rest ha hr hres hlt hregion hrest, hwf,
      hreach, hmax => by
    have href : d.ref = r := (hwf a (by simp)).ref_eq ha hr hres
    have hd : cat.Reaches (a :: as) d := .named ⟨a, by simp, ha, r, hr, hres⟩
    obtain ⟨ss, hlen, hin, hbody⟩ := CanonicalRegion.exists_encodeSlots hregion
      (hd.members_wellFormed hreach)
      (limit_of_le hmax (by simp; omega))
    obtain ⟨vs, hlen', hin', heach⟩ := CanonicalArgs.exists_encodeEach name (i + 1) hrest
      (fun a ha => hwf a (by simp [ha])) (fun d hd => hreach d (hd.mono (by simp +contextual)))
      (limit_of_le hmax (by simp; omega))
    have harg : o.encodeArg a (.multiset (some ⟨d, ss, [], 0⟩)) =
        .ok (LittleEndian.bytes 2 body.length ++ body) :=
      encodeArg_eq_ok.mpr (.multiset _ r _ ha hr href
        (encodeSlotsOf_eq_ok.mpr ⟨body, by simpa using hlen, by simpa using hbody, hlt, rfl⟩))
    refine ⟨.multiset (some ⟨d, ss, [], 0⟩) :: vs, by simp [hlen'], ?_,
      encodeEach_cons.mpr ⟨_, rest, harg, heach, rfl⟩⟩
    intro w hw
    rcases List.mem_cons.mp hw with rfl | hw
    · exact .multiset (by rw [href]; exact hres) hin
    · exact hin' w hw

/-- Every canonical region from slot `k` on is what encoding writes for some
slots of the members from slot `k` on. -/
theorem CanonicalRegion.exists_encodeSlots :
    ∀ {d : MultisetDecl} {k : Nat} {body : List UInt8}, CanonicalRegion cat o d k body →
      (∀ m ∈ d.members,
        (∀ a ∈ m.args, a.WellFormed cat) ∧ ∀ d', cat.Reaches m.args d' → d'.WellFormed cat) →
      (o.maxPayload ≤ 0 ∨ (body.length : Int) ≤ o.maxPayload) →
      ∃ ss, ss.length = (d.members.drop k).length ∧
        (∀ s ∈ ss, ∀ vs ∈ s, ∀ w ∈ vs, w.InCatalog cat) ∧
        o.encodeSlots (d.members.drop k) ss = .ok body
  | d, k, _, .nil, _, _ => by
    refine ⟨List.replicate (d.members.drop k).length none, by simp, by simp, ?_⟩
    have h := encodeSlots_replicate_none (o := o) (d.members.drop k).length (d.members.drop k) []
      (Nat.le_refl _)
    simpa using h
  | _, k, _, @CanonicalRegion.cons _ _ d _ i m payload rest hi hki hsize hargs hrest, hmembers,
      hmax => by
    have hmem : m ∈ d.members := List.mem_of_getElem? hi
    obtain ⟨hwf, hreach⟩ := hmembers m hmem
    have hmax' : o.maxPayload ≤ 0 ∨ (payload.length : Int) ≤ o.maxPayload :=
      limit_of_le hmax (by simp; omega)
    obtain ⟨vs, hlen, hin, heach⟩ := CanonicalArgs.exists_encodeEach m.name 0 hargs hwf hreach hmax'
    have hp : o.encodeArgs m vs = .ok payload := encodeArgs_eq_ok.mpr ⟨hlen, heach, hmax'⟩
    obtain ⟨ss, hlen', hin', hbody⟩ := CanonicalRegion.exists_encodeSlots hrest hmembers
      (limit_of_le hmax (by simp [Identity.length_header]; omega))
    have hlt : i < d.members.length := (List.getElem?_eq_some_iff.mp hi).1
    have hdrop : d.members.drop i = m :: d.members.drop (i + 1) := by
      rw [List.drop_eq_getElem_cons hlt, (List.getElem?_eq_some_iff.mp hi).2]
    refine ⟨List.replicate (i - k) none ++ some vs :: ss, ?_, ?_, ?_⟩
    · simp only [List.length_append, List.length_replicate, List.length_cons, hlen',
        List.length_drop]
      omega
    · intro s hs vs' hvs' w hw
      simp only [List.mem_append, List.mem_replicate, List.mem_cons] at hs
      rcases hs with ⟨-, rfl⟩ | rfl | hs
      · simp at hvs'
      · obtain rfl : vs = vs' := by simpa using hvs'
        exact hin w hw
      · exact hin' s hs vs' hvs' w hw
    · rw [encodeSlots_replicate_none _ _ _ (by simp; omega), List.drop_drop,
        show k + (i - k) = i by omega, hdrop]
      exact encodeSlots_cons.mpr ⟨_, rest, .set vs payload hp hsize, hbody, by simp⟩

end

/-! ## Canonical forms encode alike -/

theorem length_canonArgs : ∀ (as : List Arg) (vs : List Value), vs.length = as.length →
    (canonArgs as vs).length = vs.length
  | [], [], _ => by simp [canonArgs]
  | a :: as, v :: vs, h => by
    simp [canonArgs, length_canonArgs as vs (by simpa using h)]
  | [], _ :: _, h => by simp at h
  | _ :: _, [], h => by simp at h

theorem length_canonSlots : ∀ (ms : List Command) (ss : List (Option (List Value))),
    ss.length = ms.length → (canonSlots ms ss).length = ss.length
  | [], [], _ => by simp
  | m :: ms, none :: ss, h => by
    simp [canonSlots, length_canonSlots ms ss (by simpa using h)]
  | m :: ms, some vs :: ss, h => by
    simp [canonSlots, length_canonSlots ms ss (by simpa using h)]
  | [], _ :: _, h => by simp at h
  | _ :: _, [], h => by simp at h

mutual

theorem ArgBytes.canonArg {a : Arg} {v : Value} {bs : List UInt8} (hwf : a.WellFormed cat)
    (hreach : ∀ d, cat.Reaches [a] d → d.WellFormed cat) (hv : v.InCatalog cat)
    (h : ArgBytes o a v bs) : ArgBytes o a (canonArg a v) bs := by
  -- keep `v` apart from the value the cases fix, for the termination measure
  generalize hw : v = w at h hv
  have h0 := h
  cases h
  case enum e ha he =>
    obtain ⟨t, ht, hcheck⟩ := hwf.enum ha
    have hentry := entryOf?_of_enumEntryOf he
    have hlook : (a.enumTable.getD ⟨"", []⟩).byValue? e.value = some e := by
      rw [ht] at hentry ⊢
      exact EnumTable.byValue?_value (EnumTable.check_nodup_values hcheck)
        (EnumTable.entryOf?_mem hentry)
    rw [canonArg_enum ha hentry]
    exact .enum _ e ha (enumEntryOf_entry hlook)
  case bitfield ha hb =>
    obtain ⟨t, ht, hbase, hcheck⟩ := hwf.bitfield ha
    refine .bitfield _ _ ha ((encodeBits_eq_ok hbase).mpr ?_)
    obtain ⟨n, hn, rfl⟩ := (encodeBits_eq_ok hbase).mp hb
    cases hn with
    | u8 x hb8 => exact ⟨_, by simpa [canonArg.eq_def, ha] using BitfieldBits.u8 x hb8, rfl⟩
    | u16 x hb16 => exact ⟨_, by simpa [canonArg.eq_def, ha] using BitfieldBits.u16 x hb16, rfl⟩
    | u32 x hb32 => exact ⟨_, by simpa [canonArg.eq_def, ha] using BitfieldBits.u32 x hb32, rfl⟩
    | u64 x hfit =>
      -- a 64-bit carrier is narrowed to the width of the base, which it fits
      obtain hb8 | hb16 | hb32 | hb64 := ArgType.isUnsigned_cases hbase
      · have hx : x.toNat < 256 := by simpa [hb8, ArgType.size, Nat.pow_eq] using hfit
        refine ⟨_, by simpa [canonArg.eq_def, ha, hb8] using BitfieldBits.u8 x.toUInt8 hb8, ?_⟩
        simp [Nat.mod_eq_of_lt hx]
      · have hx : x.toNat < 65536 := by simpa [hb16, ArgType.size, Nat.pow_eq] using hfit
        refine ⟨_, by simpa [canonArg.eq_def, ha, hb16] using BitfieldBits.u16 x.toUInt16 hb16, ?_⟩
        simp [Nat.mod_eq_of_lt hx]
      · have hx : x.toNat < 4294967296 := by simpa [hb32, ArgType.size, Nat.pow_eq] using hfit
        refine ⟨_, by simpa [canonArg.eq_def, ha, hb32] using BitfieldBits.u32 x.toUInt32 hb32, ?_⟩
        simp [Nat.mod_eq_of_lt hx]
      · exact ⟨_, by simpa [canonArg.eq_def, ha, hb64] using BitfieldBits.u64 x hfit, rfl⟩
  case multiset m r ha hr hm hs =>
    obtain ⟨body, hlen, hbody, hlt, rfl⟩ := encodeSlotsOf_eq_ok.mp hs
    obtain ⟨hres, hin⟩ := hv.multiset_inv
    rw [hm] at hres
    have hd : cat.Reaches [a] m.decl := .named ⟨a, by simp, ha, r, hr, hres⟩
    rw [canonArg_multiset ha]
    exact .multiset _ r _ ha hr hm (encodeSlotsOf_eq_ok.mpr ⟨body,
      by rw [length_canonSlots _ _ hlen, hlen], encodeSlots_canonSlots (hd.members_wellFormed hreach) hin hbody, hlt, rfl⟩)
  all_goals rw [canonArg_of_plain (by simp_all) (by simp_all) (by simp_all)]
  all_goals exact h0
termination_by sizeOf v
decreasing_by
  subst hw
  simp only [Value.multiset.sizeOf_spec, Option.some.sizeOf_spec]
  exact Nat.lt_of_lt_of_le (Slots.sizeOf_slots_lt _) (by omega)

theorem encodeEach_canonArgs {name : String} :
    ∀ {i : Nat} {as : List Arg} {vs : List Value} {bs : List UInt8},
      (∀ a ∈ as, a.WellFormed cat) → (∀ d, cat.Reaches as d → d.WellFormed cat) →
      (∀ v ∈ vs, v.InCatalog cat) → o.encodeEach name i as vs = .ok bs →
      o.encodeEach name i as (canonArgs as vs) = .ok bs
  | _, a :: as, v :: vs, bs, hwf, hreach, hin, h => by
    obtain ⟨here, rest, hhere, hrest, rfl⟩ := encodeEach_cons.mp h
    have hone := (encodeArg_eq_ok.mp hhere).canonArg (hwf a (by simp))
      (fun d hd => hreach d (hd.mono (by simp))) (hin v (by simp))
    have hmore := encodeEach_canonArgs (fun a ha => hwf a (by simp [ha]))
      (fun d hd => hreach d (hd.mono (by simp +contextual))) (fun w hw => hin w (by simp [hw])) hrest
    simpa [canonArgs] using encodeEach_cons.mpr ⟨here, rest, encodeArg_eq_ok.mpr hone, hmore, rfl⟩
  | _, [], _, bs, _, _, _, h => by simpa [canonArgs] using h
  | _, _ :: _, [], bs, _, _, _, h => by simpa [canonArgs] using h
termination_by _ _ vs => sizeOf vs

theorem encodeSlots_canonSlots :
    ∀ {ms : List Command} {ss : List (Option (List Value))} {bs : List UInt8},
      (∀ m ∈ ms, (∀ a ∈ m.args, a.WellFormed cat) ∧
        ∀ d, cat.Reaches m.args d → d.WellFormed cat) →
      (∀ s ∈ ss, ∀ vs ∈ s, ∀ w ∈ vs, w.InCatalog cat) → o.encodeSlots ms ss = .ok bs →
      o.encodeSlots ms (canonSlots ms ss) = .ok bs
  | m :: ms, s :: ss, bs, hwf, hin, h => by
    obtain ⟨here, rest, hs, hrest, rfl⟩ := encodeSlots_cons.mp h
    have hmore := encodeSlots_canonSlots (fun c hc => hwf c (by simp [hc]))
      (fun s hs => hin s (List.mem_cons_of_mem _ hs)) hrest
    cases hs with
    | unset => simpa [canonSlots] using encodeSlots_cons.mpr ⟨[], rest, .unset, hmore, rfl⟩
    | set vs payload hp hsize =>
      obtain ⟨hlen, heach, hmax⟩ := encodeArgs_eq_ok.mp hp
      obtain ⟨hargs, hreach⟩ := hwf m (by simp)
      have hp' : o.encodeArgs m (canonArgs m.args vs) = .ok payload :=
        encodeArgs_eq_ok.mpr ⟨by rw [length_canonArgs _ _ hlen, hlen],
          encodeEach_canonArgs hargs hreach (fun w hw => hin (some vs) (by simp) vs (by simp) w hw)
            heach, hmax⟩
      simpa [canonSlots] using encodeSlots_cons.mpr ⟨_, rest, .set _ payload hp' hsize, hmore, rfl⟩
  | [], _, bs, _, _, h => by simpa using h
  | _ :: _, [], bs, _, _, h => by simpa [canonSlots] using h
termination_by _ ss => sizeOf ss

end

/-- Encoding the canonical forms of a command's values writes the payload the
values give. -/
theorem encodeArgs_canonArgs {cmd : Command} {vs : List Value} {p : List UInt8}
    (hwf : cmd.WellFormedIn cat) (hin : ∀ v ∈ vs, v.InCatalog cat)
    (h : o.encodeArgs cmd vs = .ok p) : o.encodeArgs cmd (canonArgs cmd.args vs) = .ok p := by
  obtain ⟨hlen, heach, hmax⟩ := encodeArgs_eq_ok.mp h
  exact encodeArgs_eq_ok.mpr ⟨by rw [length_canonArgs _ _ hlen, hlen],
    encodeEach_canonArgs hwf.args hwf.reached hin heach, hmax⟩

/-! ## Decoding then encoding -/

/-- Re-encoding the arguments a payload decodes to gives the payload back
exactly when the payload is within the codec's limit and canonical. -/
theorem encodeArgs_decodeArgs_iff {cmd : Command} {p : List UInt8} {args : List Value}
    (hwf : cmd.WellFormedIn cat) (h : o.decodeArgs cat cmd p = .ok args) :
    o.encodeArgs cmd args = .ok p ↔
      (o.maxPayload ≤ 0 ∨ (p.length : Int) ≤ o.maxPayload) ∧ CanonicalArgs cat o cmd.args p := by
  constructor
  · intro henc
    obtain ⟨hlen, heach, hmax⟩ := encodeArgs_eq_ok.mp henc
    exact ⟨hmax, canonicalArgs_of_encodeEach hlen (decodeArgs_inCatalog hwf h) heach⟩
  · rintro ⟨hmax, hcanon⟩
    obtain ⟨vs, hlen, hin, heach⟩ :=
      hcanon.exists_encodeEach cmd.name 0 hwf.args hwf.reached hmax
    have henc : o.encodeArgs cmd vs = .ok p := encodeArgs_eq_ok.mpr ⟨hlen, heach, hmax⟩
    -- decoding is a function: what `p` decodes to is the canonical form of `vs`
    have hdec := decodeArgs_encodeArgs hwf hin henc
    rw [h, Except.ok.injEq] at hdec
    rw [hdec]
    exact encodeArgs_canonArgs hwf hin henc

def nameCommand : Command :=
  { name := "test.Settings.Name", feature := 7, cls := 2, id := 7,
    args := [⟨"name", .string, none, .i8, none⟩] }

theorem nameCommand_wellFormed (cat : Catalog) : nameCommand.WellFormedIn cat := by
  refine .of_scalar (fun a ha => ?_) (by simp [nameCommand])
  simp only [nameCommand, List.mem_singleton] at ha
  subst ha
  trivial

theorem encodeArgs_nameCommand (o : CodecOptions) (ho : o.strings ≠ .nulTerminated)
    (hmax : o.maxPayload ≤ 0 ∨ 4 ≤ o.maxPayload) :
    o.encodeArgs nameCommand [.text [121, 121]] = .ok [2, 0, 121, 121] := by
  have htext : o.encodeText [121, 121] = .ok [2, 0, 121, 121] :=
    encodeText_eq_ok.mpr ⟨checkText_eq_ok.mpr ⟨by simp [Utf8.valid, Utf8.scalars?, Utf8.step?],
      by decide⟩, .inr ⟨ho, by decide, rfl⟩⟩
  exact encodeArgs_eq_ok.mpr ⟨rfl, encodeEach_cons.mpr ⟨_, [],
    encodeArg_eq_ok.mpr (.string _ _ rfl htext), by simp, rfl⟩, by simpa using hmax⟩

theorem decodeArgs_nameCommand (o : CodecOptions) (ho : o.strings ≠ .nulTerminated)
    (hmax : o.maxPayload ≤ 0 ∨ 4 ≤ o.maxPayload) :
    o.decodeArgs [] nameCommand [2, 0, 121, 121] = .ok [.text [121, 121]] := by
  have h := decodeArgs_encodeArgs (nameCommand_wellFormed []) (by simp [Value.InCatalog.leaf])
    (encodeArgs_nameCommand o ho hmax)
  simpa [nameCommand, canonArgs, canonArg_of_plain] using h

def modeCommand : Command :=
  { name := "test.Settings.Mode", feature := 7, cls := 2, id := 1,
    args := [{ name := "mode", type := .u8 }] }

def boxCommand : Command :=
  { name := "test.Settings.Box", feature := 7, cls := 2, id := 2,
    args := [{ name := "inner", type := .multiset, multiset := some ⟨"inner", 0⟩ }] }

def applyCommand : Command :=
  { name := "test.Settings.Apply", feature := 7, cls := 2, id := 3,
    args := [{ name := "outer", type := .multiset, multiset := some ⟨"outer", 1⟩ }] }

def boxCatalog : Catalog := [⟨"inner", 0, [modeCommand]⟩, ⟨"outer", 1, [boxCommand]⟩]

def applyPayload : List UInt8 := [15, 0, 13, 0, 7, 2, 2, 0, 7, 0, 5, 0, 7, 2, 1, 0, 5]

def applyArgs : List Value :=
  [.multiset (some ⟨⟨"outer", 1, [boxCommand]⟩,
    [some [.multiset (some ⟨⟨"inner", 0, [modeCommand]⟩, [some [.u8 5]], [], 0⟩)]], [], 0⟩)]

theorem applyCommand_wellFormed : applyCommand.WellFormedIn boxCatalog := by
  refine .of_catalog (fun a ha => ?_) fun d hd => ?_
  · simp only [applyCommand, List.mem_singleton] at ha
    subst ha
    exact ⟨_, _, rfl, rfl, rfl⟩
  · simp only [boxCatalog, List.mem_cons, List.not_mem_nil, or_false] at hd
    rcases hd with rfl | rfl
    · refine ⟨by decide, fun m hm a ha => ?_⟩
      simp only [List.mem_singleton] at hm
      subst hm
      simp only [modeCommand, List.mem_singleton] at ha
      subst ha
      trivial
    · refine ⟨by decide, fun m hm a ha => ?_⟩
      simp only [List.mem_singleton] at hm
      subst hm
      simp only [boxCommand, List.mem_singleton] at ha
      subst ha
      exact ⟨_, _, rfl, rfl, rfl⟩

theorem applyPayload_canonical :
    CanonicalArgs boxCatalog {} applyCommand.args applyPayload := by
  -- the region of `inner`: one sub-frame of `Mode` carrying the byte 5
  have hmode : CanonicalArgs boxCatalog {} modeCommand.args [5] :=
    @CanonicalArgs.scalar _ _ _ [] (.u8 5) [5] [] (by decide) (.u8 5 rfl) .nil
  have hinner : CanonicalRegion boxCatalog {} ⟨"inner", 0, [modeCommand]⟩ 0
      [5, 0, 7, 2, 1, 0, 5] :=
    @CanonicalRegion.cons _ _ _ 0 0 modeCommand [5] [] rfl (Nat.le_refl 0) (by decide) hmode .nil
  -- the payload of `Box` is that region, and the region of `outer` one sub-frame of `Box`
  have hbox : CanonicalArgs boxCatalog {} boxCommand.args [7, 0, 5, 0, 7, 2, 1, 0, 5] :=
    @CanonicalArgs.multiset _ _ _ [] ⟨"inner", 0⟩ _ [5, 0, 7, 2, 1, 0, 5] [] rfl rfl rfl
      (by decide) hinner .nil
  have houter : CanonicalRegion boxCatalog {} ⟨"outer", 1, [boxCommand]⟩ 0
      [13, 0, 7, 2, 2, 0, 7, 0, 5, 0, 7, 2, 1, 0, 5] :=
    @CanonicalRegion.cons _ _ _ 0 0 boxCommand [7, 0, 5, 0, 7, 2, 1, 0, 5] [] rfl (Nat.le_refl 0)
      (by decide) hbox .nil
  exact @CanonicalArgs.multiset _ _ _ [] ⟨"outer", 1⟩ _
    [13, 0, 7, 2, 2, 0, 7, 0, 5, 0, 7, 2, 1, 0, 5] [] rfl rfl rfl (by decide) houter .nil

/-- A payload with a multiset inside a multiset, read back and written again by
the default codec: the region of `outer` holds one sub-frame of `Box`, whose
payload is the region of `inner` with one sub-frame of `Mode`. -/
theorem encodeArgs_decodeArgs_nested :
    applyCommand.WellFormedIn boxCatalog ∧
      ({} : CodecOptions).decodeArgs boxCatalog applyCommand applyPayload = .ok applyArgs ∧
      ({} : CodecOptions).encodeArgs applyCommand applyArgs = .ok applyPayload := by
  have hdec : ({} : CodecOptions).decodeArgs boxCatalog applyCommand applyPayload =
      .ok applyArgs := rfl
  -- the payload is canonical, so the decoded arguments encode back to it
  exact ⟨applyCommand_wellFormed, hdec,
    (encodeArgs_decodeArgs_iff applyCommand_wellFormed hdec).mpr
      ⟨.inl (by decide), applyPayload_canonical⟩⟩

/-- A codec with a limit below zero has no limit: a payload longer than the
limit reads back and is written again as it was, so a limit allows re-encoding
when it is zero or less, not only when it is zero. -/
theorem reencode_negative_limit :
    ({ maxPayload := -1 } : CodecOptions).decodeArgs [] nameCommand [2, 0, 121, 121] =
        .ok [.text [121, 121]] ∧
      ({ maxPayload := -1 } : CodecOptions).encodeArgs nameCommand [.text [121, 121]] =
        .ok [2, 0, 121, 121] ∧
      ¬ (({ maxPayload := -1 } : CodecOptions).maxPayload = 0 ∨
        (([2, 0, 121, 121] : List UInt8).length : Int) ≤
          ({ maxPayload := -1 } : CodecOptions).maxPayload) :=
  ⟨decodeArgs_nameCommand _ (by decide) (by decide),
    encodeArgs_nameCommand _ (by decide) (by decide), by decide⟩

end DroneProtocol
