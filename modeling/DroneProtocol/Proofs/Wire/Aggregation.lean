import Mathlib.Data.List.Basic
import DroneProtocol.Proofs.Wire.Walking

/-! # Aggregating a multiset region

A framed region decodes to the aggregate of its sub-frames: each slot holds
the last decodable sub-frame of its member, other commands are counted, and
the rest leave one failure each, in wire order. Main statement:
`decodeMultiset_aggregates`. -/

namespace DroneProtocol

open CodecOptions

variable {o : CodecOptions} {cat : Catalog} {decl : MultisetDecl}

/-! ## Framing -/

def frameBody (raws : List (List UInt8)) : List UInt8 :=
  raws.flatMap fun raw => LittleEndian.bytes 2 raw.length ++ raw

/-- A region frames sub-frames when it is their body behind its own 16-bit
size, every size fitting its 16 bits. -/
structure Frames (raws : List (List UInt8)) (region : List UInt8) : Prop where
  fits : ∀ raw ∈ raws, raw.length < 65536
  body_fits : (frameBody raws).length < 65536
  region_eq : region = LittleEndian.bytes 2 (frameBody raws).length ++ frameBody raws

@[simp] theorem frameBody_nil : frameBody [] = [] := rfl

@[simp] theorem frameBody_cons (raw : List UInt8) (raws : List (List UInt8)) :
    frameBody (raw :: raws) = LittleEndian.bytes 2 raw.length ++ raw ++ frameBody raws := by
  simp [frameBody]

theorem length_le_frameBody : ∀ raws : List (List UInt8), raws.length ≤ (frameBody raws).length
  | [] => Nat.le_refl _
  | raw :: raws => by
    have := length_le_frameBody raws
    simp only [frameBody_cons, List.length_append, LittleEndian.length_bytes, List.length_cons]
    omega

theorem subframes_frameBody {raws : List (List UInt8)} (hfits : ∀ raw ∈ raws, raw.length < 65536) :
    ∀ (fuel off : Nat), raws.length ≤ fuel → subframes fuel ⟨frameBody raws, off⟩ = (raws, none) := by
  induction raws with
  | nil => intro fuel off _; simp
  | cons raw raws ih =>
    intro fuel off hfuel
    obtain ⟨fuel, rfl⟩ : ∃ f, fuel = f + 1 := ⟨fuel - 1, by simp at hfuel; omega⟩
    have hraw := hfits raw List.mem_cons_self
    rw [frameBody_cons, subframes_cons fuel raw _ off hraw,
      ih (fun r hr => hfits r (List.mem_cons_of_mem raw hr)) fuel _ (by simp at hfuel; omega)]

theorem frameBody_of_subframes :
    ∀ (fuel : Nat) (c : Cursor) {raws : List (List UInt8)}, c.rest.length < fuel →
      subframes fuel c = (raws, none) →
      c.rest = frameBody raws ∧ ∀ raw ∈ raws, raw.length < 65536
  | 0, _, _, hfuel, _ => absurd hfuel (Nat.not_lt_zero _)
  | fuel + 1, c, raws, hfuel, h => by
    simp only [subframes] at h
    split at h
    · rename_i hempty
      simp only [Prod.mk.injEq] at h
      obtain ⟨rfl, -⟩ := h
      exact ⟨List.isEmpty_iff.mp hempty, by simp⟩
    · split at h
      · simp at h
      · rename_i size c₁ hword
        split at h
        · simp at h
        · rename_i raw c₂ htake
          simp only [Prod.mk.injEq] at h
          obtain ⟨rfl, hmore⟩ := h
          obtain ⟨bs, hbs, hrest₁, -, rfl⟩ := Cursor.word_eq_ok hword
          obtain ⟨hraw, hrest₂, -⟩ := Cursor.take_eq_ok htake
          have hlt : LittleEndian.value bs < 65536 := by
            have := LittleEndian.value_lt bs
            rw [hbs] at this
            exact this
          have hfuel₂ : c₂.rest.length < fuel := by
            have h₁ := congrArg List.length hrest₁
            have h₂ := congrArg List.length hrest₂
            simp only [List.length_append] at h₁ h₂
            omega
          obtain ⟨hbody, hfits⟩ := frameBody_of_subframes fuel c₂ hfuel₂ (Prod.ext rfl hmore)
          refine ⟨?_, ?_⟩
          · rw [hrest₁, hrest₂, frameBody_cons, hbody, hraw, ← hbs, LittleEndian.bytes_value,
              List.append_assoc]
          · intro r hr
            rcases List.mem_cons.mp hr with rfl | hr
            · omega
            · exact hfits r hr

/-- A region's body is read exactly when the region is that body behind its
16-bit size. -/
theorem regionBody_eq_ok {region body : List UInt8} :
    regionBody decl region = .ok body ↔
      body.length < 65536 ∧ region = LittleEndian.bytes 2 body.length ++ body := by
  constructor
  · intro h
    simp only [regionBody, Except.mapError_eq_ok, Except.bind_eq_ok] at h
    obtain ⟨⟨n, c⟩, hword, ⟨bs, c'⟩, htake, h⟩ := h
    split at h
    · rename_i hempty
      simp only [Except.pure_eq_ok, Except.ok.injEq] at h
      subst h
      obtain ⟨ws, hws, hrest₁, -, rfl⟩ := Cursor.word_eq_ok hword
      obtain ⟨hlen, hrest₂, -⟩ := Cursor.take_eq_ok htake
      have hlt : LittleEndian.value ws < 65536 := by
        have := LittleEndian.value_lt ws
        rw [hws] at this
        exact this
      refine ⟨by omega, ?_⟩
      simp only at hrest₁
      rw [hrest₁, hrest₂, List.isEmpty_iff.mp hempty, List.append_nil, hlen, ← hws,
        LittleEndian.bytes_value]
    · cases h
  · rintro ⟨hlt, rfl⟩
    have hword := Cursor.word_bytes_of_lt (show body.length < Nat.pow 256 2 from hlt) body 0
    have htake := Cursor.take_append body [] 2
    rw [List.append_nil] at htake
    simp [regionBody, hword, htake]

theorem Frames.regionBody (decl : MultisetDecl) {raws : List (List UInt8)} {region : List UInt8}
    (h : Frames raws region) :
    regionBody decl region = .ok (frameBody raws) :=
  regionBody_eq_ok.mpr ⟨h.body_fits, h.region_eq⟩

/-! ## The aggregate of sub-frames -/

/-- The arguments a sub-frame gives a member: those of its payload, when its
header carries the member's identity and the payload decodes. -/
def argsFor (cat : Catalog) (o : CodecOptions) (m : Command) (raw : List UInt8) :
    Option (List Value) :=
  match Frame.readHeader raw with
  | .ok id => if id = m.identity then (o.decodeArgs cat m (raw.drop headerSize)).toOption else none
  | .error _ => none

def isForeign (decl : MultisetDecl) (raw : List UInt8) : Bool :=
  match Frame.readHeader raw with
  | .ok id => !decl.members.any (·.identity == id)
  | .error _ => false

/-- The failure the sub-frame at index `i` leaves: that of a header too short,
with the multiset's name and the index, or that of decoding the member it
carries. -/
def failureOf (cat : Catalog) (o : CodecOptions) (decl : MultisetDecl) :
    List UInt8 × Nat → Option WireError
  | (raw, i) =>
    match Frame.readHeader raw with
    | .error e => some (.decode decl.name default i "" e)
    | .ok id =>
      match decl.members.find? (·.identity == id) with
      | none => none
      | some m =>
        match o.decodeArgs cat m (raw.drop headerSize) with
        | .error e => some e
        | .ok _ => none

/-- A multiset value is the aggregate of sub-frames, in wire order: each slot
holds the arguments the last sub-frame of its member gives, the sub-frames of
other commands are counted, and each failure is listed. -/
structure Aggregates (cat : Catalog) (o : CodecOptions) (decl : MultisetDecl)
    (raws : List (List UInt8)) (ms : MultisetValue) : Prop where
  decl_eq : ms.decl = decl
  length_slots : ms.slots.length = decl.members.length
  slots : ∀ (i : Nat) m, decl.members[i]? = some m →
    ms.slots[i]? = some (raws.filterMap (argsFor cat o m)).getLast?
  unmatched : ms.unmatched = raws.countP (isForeign decl)
  errors : ms.errors = raws.zipIdx.filterMap (failureOf cat o decl)

namespace MultisetDecl

theorem member?_eq_none_iff {d : MultisetDecl} {id : Identity} :
    d.member? id = none ↔ ∀ m ∈ d.members, m.identity ≠ id := by
  simp only [member?, Option.map_eq_none_iff, List.find?_eq_none, beq_iff_eq]
  constructor
  · intro h m hm
    obtain ⟨i, hi⟩ := List.getElem?_of_mem hm
    exact h (m, i) (List.mem_zipIdx_iff_getElem?.mpr hi)
  · intro h x hx
    exact h x.1 (List.fst_mem_of_mem_zipIdx hx)

theorem member?_map_snd (d : MultisetDecl) (id : Identity) :
    (d.member? id).map Prod.snd = d.members.find? (·.identity == id) := by
  conv_rhs => rw [← List.zipIdx_map_fst 0 d.members, List.find?_map]
  simp only [member?, Option.map_map]
  rfl

end MultisetDecl

namespace CodecOptions.decodeBodyWith

variable {b : BodyReader} {ms : MultisetValue}

/-- What one step of decoding a body can do: record a header too short, count
a sub-frame of another command, record a member that fails to decode, or store
the arguments of one that decodes. -/
theorem step_cases (b : BodyReader) (cat : Catalog) (o : CodecOptions) (decl : MultisetDecl)
    (ms : MultisetValue) (raw : List UInt8) (i : Nat) :
    (∃ e, Frame.readHeader raw = .error e ∧
      step b cat o decl ms (raw, i) =
        { ms with errors := ms.errors ++ [.decode decl.name default i "" e] }) ∨
    (∃ id, Frame.readHeader raw = .ok id ∧ decl.member? id = none ∧
      step b cat o decl ms (raw, i) = { ms with unmatched := ms.unmatched + 1 }) ∨
    (∃ id j m, Frame.readHeader raw = .ok id ∧ decl.member? id = some (j, m) ∧
      ((∃ e, o.decodeArgsWith b cat m (raw.drop headerSize) = .error e ∧
          step b cat o decl ms (raw, i) = { ms with errors := ms.errors ++ [e] }) ∨
        (∃ args, o.decodeArgsWith b cat m (raw.drop headerSize) = .ok args ∧
          step b cat o decl ms (raw, i) = { ms with slots := ms.slots.set j (some args) }))) := by
  rcases hh : Frame.readHeader raw with e | id
  · exact .inl ⟨e, rfl, by simp [step, hh]⟩
  rcases hm : decl.member? id with _ | ⟨j, m⟩
  · exact .inr (.inl ⟨id, rfl, hm, by simp [step, hh, hm]⟩)
  refine .inr (.inr ⟨id, j, m, rfl, hm, ?_⟩)
  rcases hd : o.decodeArgsWith b cat m (raw.drop headerSize) with e | args
  · exact .inl ⟨e, rfl, by simp [step, hh, hm, hd]⟩
  · exact .inr ⟨args, rfl, by simp [step, hh, hm, hd]⟩

@[simp] theorem step_decl (x : List UInt8 × Nat) : (step b cat o decl ms x).decl = ms.decl := by
  obtain ⟨raw, i⟩ := x
  rcases step_cases b cat o decl ms raw i with
    ⟨e, -, h⟩ | ⟨id, -, -, h⟩ | ⟨id, j, m, -, -, ⟨e, -, h⟩ | ⟨args, -, h⟩⟩ <;> rw [h]

/-- A step only ever appends failures. -/
theorem step_errors_grow (x : List UInt8 × Nat) :
    ms.errors <+: (step b cat o decl ms x).errors := by
  obtain ⟨raw, i⟩ := x
  rcases step_cases b cat o decl ms raw i with
    ⟨e, -, h⟩ | ⟨id, -, -, h⟩ | ⟨id, j, m, -, -, ⟨e, -, h⟩ | ⟨args, -, h⟩⟩ <;>
    simp [h, List.prefix_append]

@[simp] theorem step_length (x : List UInt8 × Nat) :
    (step b cat o decl ms x).slots.length = ms.slots.length := by
  obtain ⟨raw, i⟩ := x
  rcases step_cases b cat o decl ms raw i with
    ⟨e, -, h⟩ | ⟨id, -, -, h⟩ | ⟨id, j, m, -, -, ⟨e, -, h⟩ | ⟨args, -, h⟩⟩ <;> simp [h]

theorem step_unmatched_eq (raw : List UInt8) (i : Nat) :
    (step b cat o decl ms (raw, i)).unmatched =
      ms.unmatched + if isForeign decl raw then 1 else 0 := by
  rcases step_cases b cat o decl ms raw i with
    ⟨e, hh, h⟩ | ⟨id, hh, hm, h⟩ | ⟨id, j, m, hh, hm, ⟨e, -, h⟩ | ⟨args, -, h⟩⟩
  · simp [h, isForeign, hh]
  · have hnone := MultisetDecl.member?_eq_none_iff.mp hm
    simpa [h, isForeign, hh] using hnone
  all_goals
    obtain ⟨hj, hid⟩ := MultisetDecl.member?_eq_some hm
    have hmem : ∃ c ∈ decl.members, c.identity = id := ⟨m, List.mem_of_getElem? hj, hid⟩
    simp [h, isForeign, hh, hmem]

section Payload

variable {raw : List UInt8} (hb : ∀ cmd, o.decodeArgsWith b cat cmd (raw.drop headerSize) =
  o.decodeArgs cat cmd (raw.drop headerSize))
include hb

theorem step_errors (i : Nat) :
    (step b cat o decl ms (raw, i)).errors = ms.errors ++ (failureOf cat o decl (raw, i)).toList := by
  rcases step_cases b cat o decl ms raw i with
    ⟨e, hh, h⟩ | ⟨id, hh, hm, h⟩ | ⟨id, j, m, hh, hm, ⟨e, hd, h⟩ | ⟨args, hd, h⟩⟩
  · simp [h, failureOf, hh]
  · have hfind := MultisetDecl.member?_map_snd decl id
    rw [hm, Option.map_none] at hfind
    simp [h, failureOf, hh, ← hfind]
  all_goals
    have hfind := MultisetDecl.member?_map_snd decl id
    rw [hm, Option.map_some] at hfind
    rw [hb] at hd
    simp [h, failureOf, hh, ← hfind, hd]

/-- A step stores into slot `k` exactly the arguments its sub-frame gives
member `k`, and leaves the slot alone otherwise. -/
theorem step_slot (hnd : (decl.members.map Command.identity).Nodup) {k : Nat} {m : Command}
    (hk : decl.members[k]? = some m) (hlen : k < ms.slots.length) (i : Nat) :
    (step b cat o decl ms (raw, i)).slots[k]? = ((argsFor cat o m raw).map some).or ms.slots[k]? := by
  rcases step_cases b cat o decl ms raw i with
    ⟨e, hh, h⟩ | ⟨id, hh, hm, h⟩ | ⟨id, j, m', hh, hm, hcase⟩
  · simp [h, argsFor, hh]
  · have hne : id ≠ m.identity :=
      fun hid => MultisetDecl.member?_eq_none_iff.mp hm m (List.mem_of_getElem? hk) hid.symm
    simp [h, argsFor, hh, hne]
  · obtain ⟨hj, hid⟩ := MultisetDecl.member?_eq_some hm
    by_cases hsame : id = m.identity
    · -- the sub-frame carries member `k` itself
      have hjk : j = k ∧ m' = m := by
        have := (MultisetDecl.member?_eq_some_iff hnd).mpr ⟨hk, hsame.symm⟩
        rw [hm] at this
        simpa using this
      obtain ⟨rfl, rfl⟩ := hjk
      rcases hcase with ⟨e, hd, h⟩ | ⟨args, hd, h⟩
      · rw [hb] at hd
        simp [h, argsFor, hh, hsame, hd, Except.toOption]
      · rw [hb] at hd
        simp [h, argsFor, hh, hsame, hd, hlen, Except.toOption]
    · -- another member's slot, or none, is written
      have hjk : j ≠ k := by
        rintro rfl
        rw [hk] at hj
        cases hj
        exact hsame hid.symm
      rcases hcase with ⟨e, -, h⟩ | ⟨args, -, h⟩
      · simp [h, argsFor, hh, hsame]
      · simp [h, argsFor, hh, hsame, List.getElem?_set_ne hjk]

end Payload

/-! A body is decoded by stepping through its sub-frames in wire order; each
fact about a step carries over to the whole walk by induction on the
sub-frames, generalizing the value decoded so far. -/

theorem foldl_keeps {α : Type} (g : MultisetValue → α)
    (hg : ∀ ms x, g (step b cat o decl ms x) = g ms) (l : List (List UInt8 × Nat))
    (ms : MultisetValue) : g (l.foldl (step b cat o decl) ms) = g ms := by
  induction l generalizing ms with
  | nil => rfl
  | cons x l ih => rw [List.foldl_cons, ih, hg]

@[simp] theorem foldl_decl (l : List (List UInt8 × Nat)) (ms : MultisetValue) :
    (l.foldl (step b cat o decl) ms).decl = ms.decl :=
  foldl_keeps (·.decl) (fun _ x => step_decl x) l ms

@[simp] theorem foldl_length (l : List (List UInt8 × Nat)) (ms : MultisetValue) :
    (l.foldl (step b cat o decl) ms).slots.length = ms.slots.length :=
  foldl_keeps (·.slots.length) (fun _ x => step_length x) l ms

theorem foldl_errors_grow (l : List (List UInt8 × Nat)) (ms : MultisetValue) :
    ms.errors <+: (l.foldl (step b cat o decl) ms).errors := by
  induction l generalizing ms with
  | nil => exact List.prefix_refl _
  | cons x l ih => exact (step_errors_grow x).trans (ih _)

theorem foldl_unmatched (l : List (List UInt8 × Nat)) (ms : MultisetValue) :
    (l.foldl (step b cat o decl) ms).unmatched =
      ms.unmatched + (l.map Prod.fst).countP (isForeign decl) := by
  induction l generalizing ms with
  | nil => rfl
  | cons x l ih =>
    rw [List.foldl_cons, ih, step_unmatched_eq, List.map_cons, List.countP_cons]
    omega

def ReadsPayloads (b : BodyReader) (cat : Catalog) (o : CodecOptions)
    (l : List (List UInt8 × Nat)) : Prop :=
  ∀ x ∈ l, ∀ cmd, o.decodeArgsWith b cat cmd (x.1.drop headerSize) =
    o.decodeArgs cat cmd (x.1.drop headerSize)

theorem ReadsPayloads.tail {x : List UInt8 × Nat} {l : List (List UInt8 × Nat)}
    (h : ReadsPayloads b cat o (x :: l)) : ReadsPayloads b cat o l :=
  fun y hy => h y (List.mem_cons_of_mem x hy)

theorem foldl_errors :
    ∀ (l : List (List UInt8 × Nat)), ReadsPayloads b cat o l → ∀ ms : MultisetValue,
      (l.foldl (step b cat o decl) ms).errors = ms.errors ++ l.filterMap (failureOf cat o decl)
  | [], _, ms => by simp
  | x :: l, hb, ms => by
    obtain ⟨raw, i⟩ := x
    rw [List.foldl_cons, foldl_errors l hb.tail, step_errors (hb _ List.mem_cons_self),
      List.filterMap_cons]
    cases failureOf cat o decl (raw, i) <;> simp

/-- The last sub-frame that gives member `k` arguments wins its slot; the
others, failing or not, leave it as it was. -/
theorem foldl_slot (hnd : (decl.members.map Command.identity).Nodup) {k : Nat} {m : Command}
    (hk : decl.members[k]? = some m) :
    ∀ (l : List (List UInt8 × Nat)), ReadsPayloads b cat o l → ∀ ms : MultisetValue,
      k < ms.slots.length →
      (l.foldl (step b cat o decl) ms).slots[k]? =
        (((l.map Prod.fst).filterMap (argsFor cat o m)).getLast?.map some).or ms.slots[k]?
  | [], _, ms, _ => by simp
  | x :: l, hb, ms, hlen => by
    obtain ⟨raw, i⟩ := x
    have hlen' : k < (step b cat o decl ms (raw, i)).slots.length := by rwa [step_length]
    rw [List.foldl_cons, foldl_slot hnd hk l hb.tail _ hlen',
      step_slot (hb _ List.mem_cons_self) hnd hk hlen, List.map_cons, List.filterMap_cons]
    generalize (l.map Prod.fst).filterMap (argsFor cat o m) = rest
    cases argsFor cat o m raw <;> cases hlast : rest.getLast? <;> simp [List.getLast?_cons, hlast]

end CodecOptions.decodeBodyWith

/-! ## Decoding a region -/

theorem Except.mapError_eq_error {ε ε' α : Type} {x : Except ε α} {f : ε → ε'} {e : ε'}
    (h : x.mapError f = .error e) : ∃ e₀, x = .error e₀ ∧ e = f e₀ := by
  cases x with
  | error e₀ => exact ⟨e₀, rfl, (Except.error.inj h).symm⟩
  | ok a => cases h

theorem regionBody_eq_error {region : List UInt8} {e : WireError}
    (h : regionBody decl region = .error e) :
    ∃ cause, e = .decode decl.name default (-1) "" (.malformed cause) := by
  obtain ⟨cause, -, rfl⟩ := Except.mapError_eq_error h
  exact ⟨cause, rfl⟩

/-- Decoding a region fails only structurally. -/
theorem decodeMultiset_eq_error {region : List UInt8} {e : WireError}
    (h : o.decodeMultiset cat decl region = .error e) :
    ∃ cause, e = .decode decl.name default (-1) "" (.malformed cause) := by
  simp only [CodecOptions.decodeMultiset] at h
  rcases hbody : regionBody decl region with e' | body
  · rw [hbody, Except.error_bind] at h
    cases h
    exact regionBody_eq_error hbody
  · rw [hbody, Except.ok_bind] at h
    simp only [decodeBodyWith] at h
    rcases hwalk : subframes (body.length + 1) ⟨body, 0⟩ with ⟨raws, _ | cause⟩
    · simp [hwalk] at h
    · simp only [hwalk, Except.throw_eq_error, Except.error_bind] at h
      cases h
      exact ⟨cause, rfl⟩

/-- A framed region decodes to the aggregate of its sub-frames, with their
failures joined. -/
theorem decodeMultiset_of_frames (cat : Catalog) (o : CodecOptions)
    (hnd : (decl.members.map Command.identity).Nodup)
    {raws : List (List UInt8)} {region : List UInt8} (h : Frames raws region) :
    ∃ ms, o.decodeMultiset cat decl region = .ok (ms, WireError.join? ms.errors) ∧
      Aggregates cat o decl raws ms := by
  have hbody := h.regionBody decl
  have hwalk : subframes ((frameBody raws).length + 1) ⟨frameBody raws, 0⟩ = (raws, none) :=
    subframes_frameBody h.fits _ 0 (Nat.le_succ_of_le (length_le_frameBody raws))
  -- every payload lies inside the region, so the region's fuel reaches it
  have hreads : decodeBodyWith.ReadsPayloads (o.bodyReader cat (region.length + 1)) cat o
      raws.zipIdx := by
    intro x hx cmd
    have hraw : x.1 ∈ (subframes ((frameBody raws).length + 1) ⟨frameBody raws, 0⟩).1 := by
      rw [hwalk]
      exact List.fst_mem_of_mem_zipIdx hx
    have hlen := length_le_of_mem_subframes _ _ hraw
    have hregion := regionBody_length_le hbody
    exact decodeArgsWith_bodyReader (by simp only [List.length_drop] at *; omega) cmd
  refine ⟨raws.zipIdx.foldl (decodeBodyWith.step (o.bodyReader cat (region.length + 1)) cat o decl)
    (Slots.empty decl), ?_, ?_⟩
  · simp [CodecOptions.decodeMultiset, hbody, decodeBodyWith, hwalk]
  · refine ⟨by simp [Slots.empty], by simp [Slots.empty], fun k m hk => ?_, ?_, ?_⟩
    · have hlen : k < (Slots.empty decl : MultisetValue).slots.length := by
        simp [Slots.empty, (List.getElem?_eq_some_iff.mp hk).1]
      rw [decodeBodyWith.foldl_slot hnd hk _ hreads _ hlen, List.zipIdx_map_fst]
      have hnone : (Slots.empty decl : MultisetValue).slots[k]? = some none := by
        simp [Slots.empty, (List.getElem?_eq_some_iff.mp hk).1]
      rw [hnone]
      cases (raws.filterMap (argsFor cat o m)).getLast? <;> rfl
    · simp [decodeBodyWith.foldl_unmatched, List.zipIdx_map_fst, Slots.empty]
    · simp [decodeBodyWith.foldl_errors _ hreads, Slots.empty]

theorem frames_of_decodeMultiset {region : List UInt8} {ms : MultisetValue} {err : Option WireError}
    (h : o.decodeMultiset cat decl region = .ok (ms, err)) : ∃ raws, Frames raws region := by
  obtain ⟨body, raws, hbody, -, hwalk, -⟩ := decodeMultiset_eq_ok h
  obtain ⟨hfits, rfl⟩ := regionBody_eq_ok.mp hbody
  obtain ⟨hframed, hsizes⟩ := frameBody_of_subframes _ ⟨body, 0⟩ (Nat.lt_succ_self _) hwalk
  simp only at hframed
  subst hframed
  exact ⟨raws, hsizes, hfits, rfl⟩

/-- How decoding a multiset region behaves: it fails exactly when the region
is not framed, and then with a structural failure of the multiset; a framed
region decodes to the aggregate of its sub-frames, with their failures joined. -/
structure DecodesRegion (cat : Catalog) (o : CodecOptions) (decl : MultisetDecl)
    (region : List UInt8) : Prop where
  fails_iff : (∃ e, o.decodeMultiset cat decl region = .error e) ↔ ¬ ∃ raws, Frames raws region
  structural : ∀ e, o.decodeMultiset cat decl region = .error e →
    ∃ cause, e = .decode decl.name default (-1) "" (.malformed cause)
  aggregates : ∀ raws, Frames raws region → ∃ ms,
    o.decodeMultiset cat decl region = .ok (ms, WireError.join? ms.errors) ∧
      Aggregates cat o decl raws ms

/-- Every region of a multiset of distinct member identities decodes as
`DecodesRegion` says. -/
theorem decodeMultiset_aggregates (cat : Catalog) (o : CodecOptions)
    (hnd : (decl.members.map Command.identity).Nodup) (region : List UInt8) :
    DecodesRegion cat o decl region where
  fails_iff := by
    constructor
    · rintro ⟨e, he⟩ ⟨raws, hframes⟩
      obtain ⟨ms, hms, -⟩ := decodeMultiset_of_frames cat o hnd hframes
      rw [hms] at he
      cases he
    · intro hnot
      rcases hdec : o.decodeMultiset cat decl region with e | ⟨ms, err⟩
      · exact ⟨e, rfl⟩
      · exact absurd (frames_of_decodeMultiset hdec) hnot
  structural _ := decodeMultiset_eq_error
  aggregates _ := decodeMultiset_of_frames cat o hnd

def twoSettings : MultisetDecl :=
  ⟨"Settings", 0, [{ name := "A", feature := 1, cls := 2, id := 0 }, { name := "B", feature := 1, cls := 2, id := 1 }]⟩

/-- A region holding one sub-frame of the second setting. -/
theorem decodeMultiset_aggregates_twoSettings :
    (twoSettings.members.map Command.identity).Nodup ∧
      DecodesRegion [] {} twoSettings [6, 0, 4, 0, 1, 2, 1, 0] :=
  ⟨by decide, decodeMultiset_aggregates [] {} (by decide) _⟩

end DroneProtocol
