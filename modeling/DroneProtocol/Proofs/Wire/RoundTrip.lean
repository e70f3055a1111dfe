import DroneProtocol.Proofs.Wire.Encoding

/-! # Decoding what was encoded

Main statement: `decode_encode_canonical`, an encoded frame parses back and
decodes to the canonical form of the values. A body reader that reads back
bodies shorter than `n` is extended one level at a time
(`readsBodies_decodeBodyWith`). -/

namespace DroneProtocol

open CodecOptions

/-! ## Words read back -/

theorem Int8.ofNat_toUInt8_toNat (x : Int8) : Int8.ofNat x.toUInt8.toNat = x := by
  rw [← UInt8.toInt8_ofNat', UInt8.ofNat_toNat, Int8.toInt8_toUInt8]

theorem Int16.ofNat_toUInt16_toNat (x : Int16) : Int16.ofNat x.toUInt16.toNat = x := by
  rw [← UInt16.toInt16_ofNat', UInt16.ofNat_toNat, Int16.toInt16_toUInt16]

theorem Int32.ofNat_toUInt32_toNat (x : Int32) : Int32.ofNat x.toUInt32.toNat = x := by
  rw [← UInt32.toInt32_ofNat', UInt32.ofNat_toNat, Int32.toInt32_toUInt32]

theorem Int64.ofNat_toUInt64_toNat (x : Int64) : Int64.ofNat x.toUInt64.toNat = x := by
  rw [← UInt64.toInt64_ofNat', UInt64.ofNat_toNat, Int64.toInt64_toUInt64]

theorem idxOf?_nul {s : List UInt8} (hs : 0 ∉ s) (rest : List UInt8) :
    (s ++ 0 :: rest).idxOf? 0 = some s.length := by
  induction s with
  | nil => simp [List.idxOf?_cons]
  | cons b s ih =>
    have hb : b ≠ 0 := fun h => hs (h ▸ List.mem_cons_self ..)
    have ih := ih (fun h => hs (List.mem_cons_of_mem _ h))
    simp [List.idxOf?_cons, hb, ih]

/-! ## Canonical forms of one value -/

theorem canonArg_of_plain {a : Arg} {v : Value} (he : a.type ≠ .enum) (hb : a.type ≠ .bitfield)
    (hm : a.type ≠ .multiset) : canonArg a v = v := by
  rw [canonArg.eq_def]
  split <;> simp_all

theorem canonArg_enum {a : Arg} {v : Value} {e : EnumEntry} (ha : a.type = .enum)
    (h : (a.enumTable.getD ⟨"", []⟩).entryOf? v = some e) : canonArg a v = .entry e := by
  rw [canonArg.eq_def]
  simp [ha, h]

theorem canonArg_multiset {a : Arg} {m : MultisetValue} (ha : a.type = .multiset) :
    canonArg a (.multiset (some m)) =
      .multiset (some { decl := m.decl, slots := canonSlots m.decl.members m.slots }) := by
  rw [canonArg.eq_def]
  simp [ha]

theorem EnumTable.entryOf?_mem {t : EnumTable} {v : Value} {e : EnumEntry}
    (h : t.entryOf? v = some e) : e ∈ t.values := by
  unfold EnumTable.entryOf? at h
  split at h
  · exact List.mem_of_find?_eq_some h
  · exact List.mem_of_find?_eq_some h
  · exact List.mem_of_find?_eq_some h
  · cases h

/-! ## Body readers that read back -/

variable {o : CodecOptions} {cat : Catalog} {body : BodyReader}

/-- `body` reads back, as its canonical value, every multiset value of a
declaration reached from `args` whose body encodes in fewer than `n` bytes. -/
def ReadsBodies (o : CodecOptions) (cat : Catalog) (args : List Arg) (body : BodyReader)
    (n : Nat) : Prop :=
  ∀ m : MultisetValue, cat.Reaches args m.decl → m.slots.length = m.decl.members.length →
    (∀ s ∈ m.slots, ∀ vs ∈ s, ∀ w ∈ vs, w.InCatalog cat) →
    ∀ region, o.encodeSlots m.decl.members m.slots = .ok region → region.length < n →
      body m.decl region = .ok { decl := m.decl, slots := canonSlots m.decl.members m.slots }

theorem ReadsBodies.mono {args args' : List Arg} {n n' : Nat} (h : ReadsBodies o cat args body n)
    (hargs : ∀ d, cat.Reaches args' d → cat.Reaches args d) (hn : n' ≤ n) :
    ReadsBodies o cat args' body n' :=
  fun m hr hlen hin region henc hlt => h m (hargs _ hr) hlen hin region henc (by omega)

/-! ## One argument -/

/-- One argument reads back as the canonical form of the value it was written
from, once the body reader reads back the multiset body written for it. -/
theorem decodeArgWith_of_argBytes {a : Arg} {v : Value} {bs : List UInt8} (rest : List UInt8)
    (off : Nat) (hwf : a.WellFormed cat) (hv : v.InCatalog cat)
    (hbody : ReadsBodies o cat [a] body bs.length) (h : ArgBytes o a v bs) :
    o.decodeArgWith body cat a ⟨bs ++ rest, off⟩ = .ok (canonArg a v, ⟨rest, off + bs.length⟩) := by
  cases h
  case string s ha henc =>
    obtain ⟨hcheck, ⟨hn, rfl⟩ | ⟨hn, hlt, rfl⟩⟩ := encodeText_eq_ok.mp henc
    · have hidx := idxOf?_nul (checkText_eq_ok.mp hcheck).2 rest
      have htake := Cursor.take_append (s ++ [0]) rest off
      simp only [List.length_append, List.length_singleton] at htake
      simp only [List.append_assoc, List.singleton_append] at htake ⊢
      simp [decodeArgWith, decodeText, ha, hn, hidx, htake, hcheck, canonArg_of_plain]
    · have hword := Cursor.word_bytes_of_lt (show s.length < Nat.pow 256 2 from hlt) (s ++ rest) off
      have htake := Cursor.take_append s rest (off + 2)
      simp only [List.append_assoc]
      simp [decodeArgWith, decodeText, ha, hn, hword, htake, hcheck, canonArg_of_plain]
      omega
  case binary b ha hlt =>
    have hword := Cursor.word_bytes_of_lt (show b.length < Nat.pow 256 4 from hlt) (b ++ rest) off
    have htake := Cursor.take_append b rest (off + 4)
    simp only [List.append_assoc]
    have hfits : ¬ b.length + rest.length < b.length := by omega
    simp [decodeArgWith, ha, hword, htake, hfits, canonArg_of_plain]
    omega
  case enum e ha he =>
    obtain ⟨t, ht, hcheck⟩ := hwf.enum ha
    have hentry : t.entryOf? v = some e := by simpa [ht] using entryOf?_of_enumEntryOf he
    have hlook := EnumTable.byValue?_value (EnumTable.check_nodup_values hcheck)
      (EnumTable.entryOf?_mem hentry)
    have hword := Cursor.word_bytes_of_lt
      (show e.value.toUInt32.toNat < Nat.pow 256 4 from e.value.toUInt32.toNat_lt) rest off
    simp [decodeArgWith, ha, hword, ht, hlook, Int32.ofNat_toUInt32_toNat,
      canonArg_enum ha (by simpa [ht] using hentry)]
  case bitfield ha hb =>
    obtain ⟨t, ht, hbase, hcheck⟩ := hwf.bitfield ha
    obtain ⟨n, hn, rfl⟩ := (encodeBits_eq_ok hbase).mp hb
    cases hn with
    | u8 x hw => simp [decodeArgWith, ha, hw, ArgType.size, Cursor.word_bytes, canonArg.eq_def]
    | u16 x hw => simp [decodeArgWith, ha, hw, ArgType.size, Cursor.word_bytes, canonArg.eq_def]
    | u32 x hw => simp [decodeArgWith, ha, hw, ArgType.size, Cursor.word_bytes, canonArg.eq_def]
    | u64 x hfit =>
      obtain hw | hw | hw | hw := ArgType.isUnsigned_cases hbase <;>
        simp [hw, ArgType.size, Nat.pow_eq] at hfit <;>
        simp [decodeArgWith, ha, hw, ArgType.size, Cursor.word_bytes, canonArg.eq_def,
          Nat.mod_eq_of_lt, hfit, UInt8.ofNat_uInt64ToNat, UInt16.ofNat_uInt64ToNat,
          UInt32.ofNat_uInt64ToNat]
  case multiset m r ha hr hm hs =>
    obtain ⟨region, hlen, hslots, hlt, rfl⟩ := encodeSlotsOf_eq_ok.mp hs
    obtain ⟨hres, hin⟩ := hv.multiset_inv
    rw [hm] at hres
    have hnamed : cat.Reaches [a] m.decl := .named ⟨a, List.mem_singleton_self a, ha, r, hr, hres⟩
    have hword := Cursor.word_bytes_of_lt (show region.length < Nat.pow 256 2 from hlt)
      (region ++ rest) off
    have htake := Cursor.take_append region rest (off + 2)
    have hread := hbody m hnamed hlen hin region hslots (by simp)
    simp only [List.append_assoc]
    simp [decodeArgWith, ha, hr, hword, htake, hres, hread, canonArg_multiset ha]
    omega
  all_goals
    simp [decodeArgWith, *, Cursor.word_bytes, Int8.ofNat_toUInt8_toNat, Int16.ofNat_toUInt16_toNat,
      Int32.ofNat_toUInt32_toNat, Int64.ofNat_toUInt64_toNat, canonArg_of_plain]

/-! ## A list of arguments -/

/-- The arguments of a command read back from the bytes encoding wrote for
them, with nothing left over. -/
theorem decodeArgsWith_go_of_encodeEach (cmd : Command) :
    ∀ {args : List Arg} {vs : List Value} {i : Nat} {bs : List UInt8} (off : Nat),
      vs.length = args.length → (∀ a ∈ args, a.WellFormed cat) → (∀ v ∈ vs, v.InCatalog cat) →
      ReadsBodies o cat args body bs.length → o.encodeEach cmd.name i args vs = .ok bs →
      decodeArgsWith.go body cat o cmd i args ⟨bs, off⟩ = .ok (canonArgs args vs)
  | [], [], i, bs, off, _, _, _, _, h => by
    simp only [encodeEach_nil, Except.ok.injEq] at h
    subst h
    simp [decodeArgsWith.go, canonArgs]
  | a :: as, v :: vs, i, bs, off, hlen, hwf, hin, hbody, h => by
    obtain ⟨here, rest, hhere, hrest, rfl⟩ := encodeEach_cons.mp h
    have hone := decodeArgWith_of_argBytes rest off (hwf a (by simp)) (hin v (by simp))
      (hbody.mono (fun _ hd => hd.mono (by simp)) (by simp)) (encodeArg_eq_ok.mp hhere)
    have hmore := decodeArgsWith_go_of_encodeEach cmd (off + here.length)
      (by simpa using hlen) (fun a ha => hwf a (by simp [ha])) (fun v hv => hin v (by simp [hv]))
      (hbody.mono (fun _ hd => hd.mono (by simp +contextual)) (by simp)) hrest
    simp [decodeArgsWith.go, hone, hmore, canonArgs]
  | [], _ :: _, _, _, _, hlen, _, _, _, _ => by simp at hlen
  | _ :: _, [], _, _, _, hlen, _, _, _, _ => by simp at hlen

theorem decodeArgsWith_of_encodeArgs {cmd : Command} {vs : List Value} {p : List UInt8}
    (hwf : ∀ a ∈ cmd.args, a.WellFormed cat) (hin : ∀ v ∈ vs, v.InCatalog cat)
    (hbody : ReadsBodies o cat cmd.args body p.length) (h : o.encodeArgs cmd vs = .ok p) :
    o.decodeArgsWith body cat cmd p = .ok (canonArgs cmd.args vs) := by
  obtain ⟨hlen, heach, -⟩ := encodeArgs_eq_ok.mp h
  exact decodeArgsWith_go_of_encodeEach cmd 0 hlen hwf hin hbody heach

/-! ## Multiset bodies -/

@[simp] theorem canonSlots_nil_left (ss : List (Option (List Value))) : canonSlots [] ss = [] := by
  rw [canonSlots.eq_def]

theorem Identity.length_header (i : Identity) : i.header.length = headerSize := rfl

section Body

variable {d : MultisetDecl} {n : Nat}

/-- Decoding one member's sub-frame stores the member's canonical arguments in
its slot. -/
theorem step_subframe (hnd : (d.members.map Command.identity).Nodup) {m : Command} {i : Nat}
    (hi : d.members[i]? = some m) {args : List Value} {payload : List UInt8}
    (hwf : ∀ a ∈ m.args, a.WellFormed cat) (hin : ∀ v ∈ args, v.InCatalog cat)
    (hbody : ReadsBodies o cat m.args body payload.length) (hp : o.encodeArgs m args = .ok payload)
    (S : MultisetValue) (j : Nat) :
    decodeBodyWith.step body cat o d S (m.identity.header ++ payload, j) =
      { S with slots := S.slots.set i (some (canonArgs m.args args)) } := by
  have hdrop : (m.identity.header ++ payload).drop headerSize = payload :=
    List.drop_left' (Identity.length_header _)
  simp [decodeBodyWith.step, Frame.readHeader_header, MultisetDecl.member?_identity hnd hi, hdrop,
    decodeArgsWith_of_encodeArgs hwf hin hbody hp]

/-- Walking a body that encoding wrote for the members from slot `pre.length`
on, and decoding each sub-frame met, fills exactly the set slots among them
with their canonical arguments, and the walk ends cleanly. -/
theorem foldl_step_encodeSlots (hnd : (d.members.map Command.identity).Nodup)
    (hwf : ∀ m ∈ d.members, ∀ a ∈ m.args, a.WellFormed cat)
    (hbody : ∀ m ∈ d.members, ReadsBodies o cat m.args body n) :
    ∀ (ms : List Command) (ss : List (Option (List Value))) (pre : List (Option (List Value)))
      {region : List UInt8} (fuel off j : Nat),
      d.members.drop pre.length = ms → ss.length = ms.length →
      (∀ s ∈ ss, ∀ vs ∈ s, ∀ w ∈ vs, w.InCatalog cat) →
      o.encodeSlots ms ss = .ok region → region.length < fuel → region.length ≤ n →
      (subframes fuel ⟨region, off⟩).2 = none ∧
        ((subframes fuel ⟨region, off⟩).1.zipIdx j).foldl (decodeBodyWith.step body cat o d)
          { decl := d, slots := pre ++ List.replicate ms.length none } =
          { decl := d, slots := pre ++ canonSlots ms ss }
  | [], ss, pre, region, fuel, off, j, _, _, _, h, _, _ => by
    simp only [encodeSlots_nil_left, Except.ok.injEq] at h
    subst h
    simp
  | _ :: _, [], _, _, _, _, _, _, hlen, _, _, _, _ => by simp at hlen
  | m :: ms, s :: ss, pre, region, fuel, off, j, hdrop, hlen, hin, h, hfuel, hn => by
    obtain ⟨here, rest, hs, hrest, rfl⟩ := encodeSlots_cons.mp h
    have hi : d.members[pre.length]? = some m := by
      have h0 : (d.members.drop pre.length)[0]? = some m := by rw [hdrop]; rfl
      rwa [List.getElem?_drop, Nat.add_zero] at h0
    have hmem : m ∈ d.members := List.mem_of_mem_drop (hdrop ▸ List.mem_cons_self)
    have hdrop' : d.members.drop (pre.length + 1) = ms := by
      rw [← List.drop_drop, hdrop, List.drop_one, List.tail_cons]
    have hin' : ∀ s ∈ ss, ∀ vs ∈ s, ∀ w ∈ vs, w.InCatalog cat :=
      fun s hs => hin s (List.mem_cons_of_mem _ hs)
    cases hs with
    | unset =>
      have ih := foldl_step_encodeSlots hnd hwf hbody ms ss (pre ++ [none]) fuel off j
        (by simpa using hdrop') (by simpa using hlen) hin' hrest hfuel hn
      simpa [canonSlots, List.replicate_succ] using ih
    | set args payload hp hsize =>
      simp only [List.length_append, LittleEndian.length_bytes, Identity.length_header]
        at hfuel hn
      obtain ⟨fuel, rfl⟩ : ∃ f, fuel = f + 1 := ⟨fuel - 1, by omega⟩
      have hraw := subframes_cons fuel (m.identity.header ++ payload) rest off
        (by simpa [Identity.length_header] using hsize)
      simp only [List.length_append, Identity.length_header, List.append_assoc] at hraw
      have hstep := step_subframe hnd hi (hwf m hmem) (fun v hv => hin (some args) (by simp) args
        (by simp) v hv) ((hbody m hmem).mono (fun _ h => h) (by omega)) hp
        { decl := d, slots := pre ++ List.replicate (m :: ms).length none } j
      have ih := foldl_step_encodeSlots hnd hwf hbody ms ss (pre ++ [some (canonArgs m.args args)])
        fuel (off + 2 + (headerSize + payload.length)) (j + 1) (by simpa using hdrop')
        (by simpa using hlen) hin' hrest (by omega) (by omega)
      simp only [List.append_assoc]
      rw [hraw]
      simp only [List.zipIdx_cons, List.foldl_cons, hstep]
      simpa [canonSlots, List.replicate_succ] using ih

end Body

/-- A body reader that reads back every body below `n` bytes, tied one level
deeper through `decodeBodyWith`, reads back every body up to `n` bytes. -/
theorem readsBodies_decodeBodyWith {args : List Arg} {n : Nat}
    (hwf : ∀ d, cat.Reaches args d → d.WellFormed cat) (h : ReadsBodies o cat args body n) :
    ReadsBodies o cat args (o.decodeBodyWith body cat) (n + 1) := by
  intro m hr hlen hin region henc hlt
  obtain ⟨hnd, hargs⟩ := hwf m.decl hr
  -- the members' own bodies are strictly inside `region`, so `body` reads them
  have hbody : ∀ mem ∈ m.decl.members, ReadsBodies o cat mem.args body n :=
    fun mem hmem => h.mono (fun _ hd => hr.through hmem hd) (Nat.le_refl n)
  obtain ⟨herr, hfold⟩ := foldl_step_encodeSlots hnd hargs hbody m.decl.members m.slots []
    (region.length + 1) 0 0 (by simp) hlen hin henc (by omega) (by omega)
  rcases hw : subframes (region.length + 1) ⟨region, 0⟩ with ⟨raws, err⟩
  rw [hw] at herr hfold
  subst herr
  simpa [decodeBodyWith, hw, Slots.empty] using hfold

theorem readsBodies_bodyReader {args : List Arg} (hwf : ∀ d, cat.Reaches args d → d.WellFormed cat) :
    ∀ k, ReadsBodies o cat args (o.bodyReader cat k) k
  | 0 => fun _ _ _ _ _ _ hlt => absurd hlt (Nat.not_lt_zero _)
  | k + 1 => readsBodies_decodeBodyWith hwf (readsBodies_bodyReader hwf k)

/-! ## Frames -/

theorem decodeArgs_encodeArgs {cmd : Command} {vs : List Value} {p : List UInt8}
    (hwf : cmd.WellFormedIn cat) (hin : ∀ v ∈ vs, v.InCatalog cat)
    (h : o.encodeArgs cmd vs = .ok p) :
    o.decodeArgs cat cmd p = .ok (canonArgs cmd.args vs) :=
  decodeArgsWith_of_encodeArgs hwf.args hin
    ((readsBodies_bodyReader hwf.reached _).mono (fun _ hd => hd) (Nat.le_succ _)) h

/-- Encode then decode is the identity up to canonical form: the frame that
encoding gives parses back to itself, and decoding it against the same command
gives the canonical forms of the values. -/
theorem decode_encode_canonical {cmd : Command} {vs : List Value} {f : Frame}
    (hwf : cmd.WellFormedIn cat) (hin : ∀ v ∈ vs, v.InCatalog cat)
    (h : o.encode cmd vs = .ok f) :
    Frame.parse f.bytes = .ok f ∧ o.decode cat cmd f = .ok (canonArgs cmd.args vs) := by
  obtain ⟨p, hp, rfl⟩ : ∃ p, o.encodeArgs cmd vs = .ok p ∧ ⟨cmd.identity, p⟩ = f := by
    simpa [encode, Except.bind_eq_ok] using h
  refine ⟨Frame.parse_bytes _, ?_⟩
  simp [decode, decodeArgs_encodeArgs hwf hin hp]

def stateTable : EnumTable := ⟨"State", [⟨"landed", 0⟩, ⟨"flying", 1⟩, ⟨"emergency", 5⟩]⟩

def flightState : Command :=
  { name := "test.Piloting.State", feature := 1, cls := 4, id := 1,
    args := [{ name := "state", type := .enum, enumTable := some stateTable }] }

/-- A flight state given by its number goes out as four bytes and comes back
as the table's entry. -/
theorem decode_encode_flightState :
    Frame.parse (⟨flightState.identity, [1, 0, 0, 0]⟩ : Frame).bytes =
        .ok ⟨flightState.identity, [1, 0, 0, 0]⟩ ∧
      ({} : CodecOptions).decode [] flightState ⟨flightState.identity, [1, 0, 0, 0]⟩ =
        .ok [.entry ⟨"flying", 1⟩] := by
  have hwf : flightState.WellFormedIn [] := by
    refine .of_scalar (fun a ha => ?_) (by simp [flightState])
    simp only [flightState, List.mem_singleton] at ha
    subst ha
    exact ⟨stateTable, rfl, by decide⟩
  have hin : ∀ v ∈ [Value.i32 1], v.InCatalog [] := by simp [Value.InCatalog.leaf]
  have hp : ({} : CodecOptions).encodeArgs flightState [.i32 1] = .ok [1, 0, 0, 0] :=
    encodeArgs_eq_ok.mpr ⟨rfl, encodeEach_cons.mpr ⟨[1, 0, 0, 0], [],
      encodeArg_eq_ok.mpr (.enum _ ⟨"flying", 1⟩ rfl rfl), encodeEach_nil .., rfl⟩, by decide⟩
  have henc : ({} : CodecOptions).encode flightState [.i32 1] =
      .ok ⟨flightState.identity, [1, 0, 0, 0]⟩ := by
    simp [encode, hp]
  have hentry : stateTable.entryOf? (.i32 1) = some ⟨"flying", 1⟩ := rfl
  have hcanon : canonArgs flightState.args [.i32 1] = [.entry ⟨"flying", 1⟩] := by
    simp [flightState, canonArgs, canonArg.eq_def, hentry]
  have h := decode_encode_canonical hwf hin henc
  rwa [hcanon] at h

end DroneProtocol
