import Mathlib.Data.List.Basic
import DroneProtocol.Wire.Multiset
import DroneProtocol.Proofs.Wire.Reading
import DroneProtocol.Proofs.Descriptor.Reachable

/-! # Walking a multiset region

A region is decoded whole or walked sub-frame by sub-frame by a visitor that
may stop; the two share the walk and read nested bodies with different fuel,
which does not matter once it exceeds the bytes read. Main statement:
`forEachSubmessage_agrees`. -/

namespace DroneProtocol

open CodecOptions

variable {o : CodecOptions} {cat : Catalog}

/-! ## The fuel of the body reader -/

def BodiesAgree (b₁ b₂ : BodyReader) (n : Nat) : Prop :=
  ∀ d (r : List UInt8), r.length < n → b₁ d r = b₂ d r

theorem BodiesAgree.mono {b₁ b₂ : BodyReader} {n m : Nat} (h : BodiesAgree b₁ b₂ n) (hm : m ≤ n) :
    BodiesAgree b₁ b₂ m :=
  fun d r hr => h d r (by omega)

namespace Cursor

theorem take_rest_le {c c' : Cursor} {n : Nat} {bs : List UInt8} (h : c.take n = .ok (bs, c')) :
    c'.rest.length ≤ c.rest.length := by
  obtain ⟨-, hrest, -⟩ := take_eq_ok h
  rw [hrest, List.length_append]
  omega

theorem word_rest_le {c c' : Cursor} {w x : Nat} (h : c.word w = .ok (x, c')) :
    c'.rest.length ≤ c.rest.length := by
  obtain ⟨bs, -, hrest, -⟩ := word_eq_ok h
  rw [hrest, List.length_append]
  omega

end Cursor

theorem decodeText_rest_le {c c' : Cursor} {s : List UInt8} (h : o.decodeText c = .ok (s, c')) :
    c'.rest.length ≤ c.rest.length := by
  unfold decodeText at h
  split at h
  · split at h
    · cases h
    · simp only [Except.bind_eq_ok, Except.pure_eq_ok, Except.ok.injEq, Prod.mk.injEq] at h
      obtain ⟨⟨bs, c₁⟩, htake, _, ⟨rfl, rfl⟩, _, -, -, rfl⟩ := h
      exact Cursor.take_rest_le htake
  · simp only [Except.bind_eq_ok, Except.pure_eq_ok, Except.ok.injEq, Prod.mk.injEq] at h
    obtain ⟨⟨n, c₁⟩, hword, ⟨s₀, c₂⟩, htake, _, -, -, rfl⟩ := h
    exact Nat.le_trans (Cursor.take_rest_le htake) (Cursor.word_rest_le hword)

section Congruence

variable {b₁ b₂ : BodyReader} {n : Nat}

/-- Reading one argument never moves the cursor back. -/
theorem decodeArgWith_rest_le {body : BodyReader} {a : Arg} {c c' : Cursor} {v : Value}
    (h : o.decodeArgWith body cat a c = .ok (v, c')) : c'.rest.length ≤ c.rest.length := by
  cases hty : a.type
  case string =>
    simp only [decodeArgWith, hty, Except.bind_eq_ok] at h
    obtain ⟨⟨s, c₁⟩, htext, h⟩ := h
    simp only [Except.pure_eq_ok, Except.ok.injEq, Prod.mk.injEq] at h
    obtain ⟨-, rfl⟩ := h
    exact decodeText_rest_le htext
  case binary =>
    simp only [decodeArgWith, hty, Except.bind_eq_ok] at h
    obtain ⟨⟨k, c₁⟩, hword, h⟩ := h
    split at h
    · cases h
    · simp only [Except.bind_eq_ok] at h
      obtain ⟨⟨bs, c₂⟩, htake, h⟩ := h
      simp only [Except.pure_eq_ok, Except.ok.injEq, Prod.mk.injEq] at h
      obtain ⟨-, rfl⟩ := h
      exact Nat.le_trans (Cursor.take_rest_le htake) (Cursor.word_rest_le hword)
  case enum =>
    simp only [decodeArgWith, hty, Except.bind_eq_ok] at h
    obtain ⟨⟨k, c₁⟩, hword, h⟩ := h
    split at h
    · simp only [Except.pure_eq_ok, Except.ok.injEq, Prod.mk.injEq] at h
      obtain ⟨-, rfl⟩ := h
      exact Cursor.word_rest_le hword
    · cases h
  case multiset =>
    simp only [decodeArgWith, hty, Except.bind_eq_ok, Except.mapError_eq_ok] at h
    obtain ⟨⟨k, c₁⟩, hword, ⟨region, c₂⟩, htake, ms, -, h⟩ := h
    split at h
    · cases h
    · simp only [Except.pure_eq_ok, Except.ok.injEq, Prod.mk.injEq] at h
      obtain ⟨-, rfl⟩ := h
      exact Nat.le_trans (Cursor.take_rest_le htake) (Cursor.word_rest_le hword)
  case bitfield =>
    simp only [decodeArgWith, hty] at h
    split at h <;>
    · simp only [Except.bind_eq_ok] at h
      obtain ⟨⟨k, c₁⟩, hword, h⟩ := h
      simp only [Except.pure_eq_ok, Except.ok.injEq, Prod.mk.injEq] at h
      obtain ⟨-, rfl⟩ := h
      exact Cursor.word_rest_le hword
  case unknown => simp [decodeArgWith, hty] at h
  all_goals
    simp only [decodeArgWith, hty, Except.bind_eq_ok] at h
    obtain ⟨⟨k, c₁⟩, hword, h⟩ := h
    simp only [Except.pure_eq_ok, Except.ok.injEq, Prod.mk.injEq] at h
    obtain ⟨-, rfl⟩ := h
    exact Cursor.word_rest_le hword

/-- Only a multiset argument reads a nested body, and only inside the bytes
left at the cursor. -/
theorem decodeArgWith_congr (h : BodiesAgree b₁ b₂ n) (a : Arg) {c : Cursor}
    (hc : c.rest.length ≤ n) : o.decodeArgWith b₁ cat a c = o.decodeArgWith b₂ cat a c := by
  cases hty : a.type
  case multiset =>
    simp only [decodeArgWith, hty]
    rcases hword : c.word 2 with e | ⟨k, c₁⟩
    · rfl
    simp only [Except.ok_bind]
    rcases htake : c₁.take k with e | ⟨region, c₂⟩
    · rfl
    obtain ⟨bs, hbs, hrest, -⟩ := Cursor.word_eq_ok hword
    obtain ⟨-, hrest₁, -⟩ := Cursor.take_eq_ok htake
    have hregion : region.length < n := by
      have := congrArg List.length hrest
      simp only [hrest₁, List.length_append] at this
      omega
    simp only [Except.ok_bind, Except.mapError_ok, h _ _ hregion]
  all_goals simp only [decodeArgWith, hty]

theorem decodeArgsWith_go_congr (h : BodiesAgree b₁ b₂ n) (cmd : Command) :
    ∀ (i : Nat) (args : List Arg) (c : Cursor), c.rest.length ≤ n →
      decodeArgsWith.go b₁ cat o cmd i args c = decodeArgsWith.go b₂ cat o cmd i args c
  | i, [], c, _ => by simp only [decodeArgsWith.go]
  | i, a :: as, c, hc => by
    simp only [decodeArgsWith.go]
    rw [decodeArgWith_congr h a hc]
    rcases hv : o.decodeArgWith b₂ cat a c with e | ⟨v, c'⟩
    · rfl
    · have hc' : c'.rest.length ≤ n := Nat.le_trans (decodeArgWith_rest_le hv) hc
      simp only [Except.mapError_ok, Except.ok_bind, decodeArgsWith_go_congr h cmd (i + 1) as c' hc']

theorem decodeArgsWith_congr (h : BodiesAgree b₁ b₂ n) {p : List UInt8} (hp : p.length ≤ n)
    (cmd : Command) : o.decodeArgsWith b₁ cat cmd p = o.decodeArgsWith b₂ cat cmd p :=
  decodeArgsWith_go_congr h cmd 0 cmd.args ⟨p, 0⟩ hp

theorem length_le_of_mem_subframes :
    ∀ (fuel : Nat) (c : Cursor) {raw : List UInt8}, raw ∈ (subframes fuel c).1 →
      raw.length ≤ c.rest.length
  | 0, c, raw, h => by simp [subframes] at h
  | fuel + 1, c, raw, h => by
    simp only [subframes] at h
    split at h
    · simp at h
    · split at h
      · simp at h
      · rename_i k c₁ hword
        split at h
        · simp at h
        · rename_i bs c₂ htake
          have hle₁ := Cursor.word_rest_le hword
          obtain ⟨hbs, hrest, -⟩ := Cursor.take_eq_ok htake
          have hle₂ : bs.length + c₂.rest.length ≤ c.rest.length := by
            rw [← List.length_append, ← hrest]
            exact hle₁
          rcases List.mem_cons.mp h with rfl | hmore
          · omega
          · have := length_le_of_mem_subframes fuel c₂ hmore
            omega

theorem step_congr (h : BodiesAgree b₁ b₂ n) (d : MultisetDecl) (ms : MultisetValue)
    {raw : List UInt8} (hraw : raw.length ≤ n) (i : Nat) :
    decodeBodyWith.step b₁ cat o d ms (raw, i) = decodeBodyWith.step b₂ cat o d ms (raw, i) := by
  have hp : (raw.drop headerSize).length ≤ n := by
    simp only [List.length_drop]
    omega
  simp only [decodeBodyWith.step, decodeArgsWith_congr h hp]

/-- Reading a body, nested bodies are read only inside it. -/
theorem decodeBodyWith_congr (d : MultisetDecl) (r : List UInt8) (h : BodiesAgree b₁ b₂ r.length) :
    o.decodeBodyWith b₁ cat d r = o.decodeBodyWith b₂ cat d r := by
  simp only [decodeBodyWith]
  rcases hwalk : subframes (r.length + 1) ⟨r, 0⟩ with ⟨raws, _ | e⟩
  · have hsteps : raws.zipIdx.foldl (decodeBodyWith.step b₁ cat o d) (Slots.empty d) =
        raws.zipIdx.foldl (decodeBodyWith.step b₂ cat o d) (Slots.empty d) := by
      refine List.foldl_ext _ _ _ fun ms x hx => ?_
      obtain ⟨raw, i⟩ := x
      have hraw : raw ∈ (subframes (r.length + 1) ⟨r, 0⟩).1 := by
        rw [hwalk]
        exact List.fst_mem_of_mem_zipIdx hx
      exact step_congr h d ms (length_le_of_mem_subframes _ _ hraw) i
    simp only [hsteps]
  · rfl

end Congruence

theorem bodyReader_agree : ∀ (F F' : Nat),
    BodiesAgree (o.bodyReader cat F) (o.bodyReader cat F') (min F F')
  | 0, _ => fun _ _ hr => by simp at hr
  | _ + 1, 0 => fun _ _ hr => by simp at hr
  | F + 1, F' + 1 => fun d r hr => by
    simp only [bodyReader]
    exact decodeBodyWith_congr d r ((bodyReader_agree F F').mono (by omega))

theorem decodeArgsWith_bodyReader {F : Nat} {p : List UInt8} (hp : p.length < F) (cmd : Command) :
    o.decodeArgsWith (o.bodyReader cat F) cat cmd p = o.decodeArgs cat cmd p :=
  decodeArgsWith_congr (bodyReader_agree F (p.length + 1)) (by omega) cmd

/-! ## Sub-frames -/

theorem MultisetDecl.member?_eq_some {d : MultisetDecl} {id : Identity} {i : Nat} {m : Command}
    (h : d.member? id = some (i, m)) : d.members[i]? = some m ∧ m.identity = id := by
  simp only [MultisetDecl.member?, Option.map_eq_some_iff] at h
  obtain ⟨⟨c, j⟩, hfind, hcj⟩ := h
  simp only [Prod.mk.injEq] at hcj
  obtain ⟨rfl, rfl⟩ := hcj
  refine ⟨List.mem_zipIdx_iff_getElem?.mp (List.mem_of_find?_eq_some hfind), ?_⟩
  simpa using List.find?_some hfind

theorem MultisetDecl.member?_eq_some_iff {d : MultisetDecl} {id : Identity} {i : Nat} {m : Command}
    (hnd : (d.members.map Command.identity).Nodup) :
    d.member? id = some (i, m) ↔ d.members[i]? = some m ∧ m.identity = id :=
  ⟨member?_eq_some, fun ⟨hi, hid⟩ => hid ▸ member?_identity hnd hi⟩

namespace Frame

theorem parse_of_readHeader_ok {raw : List UInt8} {id : Identity} (h : readHeader raw = .ok id) :
    parse raw = .ok ⟨id, raw.drop headerSize⟩ := by
  simp [parse, h]

theorem parse_of_readHeader_error {raw : List UInt8} {e : WireError} (h : readHeader raw = .error e) :
    parse raw = .error e := by
  simp [parse, h]

end Frame

namespace SubFrame

def isUnmatched (s : SubFrame) (name : String) : Bool :=
  match s.err? name with
  | some (.unmatched _ _) => true
  | _ => false

/-- Replay a sub-frame into slots: a member's sub-frame whose arguments decode,
with no resolver for other commands, stores them in its member's slot. -/
def replay (cat : Catalog) (o : CodecOptions) (slots : List (Option (List Value)))
    (s : SubFrame) : List (Option (List Value)) :=
  match s.member, s.decode cat o (fun _ => none) with
  | some (i, _), .ok (_, args) => slots.set i (some args)
  | _, _ => slots

variable {decl : MultisetDecl}

@[simp] theorem ofRaw_index (x : List UInt8 × Nat) : (ofRaw decl x).index = x.2 := by
  obtain ⟨raw, i⟩ := x
  simp only [ofRaw]
  split <;> rfl

theorem ofRaw_member_eq_some {x : List UInt8 × Nat} {i : Nat} {c : Command} :
    (ofRaw decl x).member = some (i, c) ↔
      ∃ f, (ofRaw decl x).frame = .ok f ∧ decl.member? f.id = some (i, c) := by
  obtain ⟨raw, j⟩ := x
  simp only [ofRaw]
  split <;> simp

theorem step_unmatched (b : BodyReader) (ms : MultisetValue) (x : List UInt8 × Nat) :
    (decodeBodyWith.step b cat o decl ms x).unmatched =
      ms.unmatched + if (ofRaw decl x).isUnmatched decl.name then 1 else 0 := by
  obtain ⟨raw, i⟩ := x
  rcases hh : Frame.readHeader raw with e | id
  · simp [decodeBodyWith.step, ofRaw, hh, Frame.parse_of_readHeader_error hh, isUnmatched, err?]
  · rcases hm : decl.member? id with _ | ⟨slot, member⟩
    · simp [decodeBodyWith.step, ofRaw, hh, Frame.parse_of_readHeader_ok hh, hm, isUnmatched, err?]
    · simp only [decodeBodyWith.step, ofRaw, hh, Frame.parse_of_readHeader_ok hh, hm, isUnmatched,
        err?, Option.isNone_some]
      split <;> simp

/-- One step of decoding a body sets a slot exactly as replaying its walked
counterpart does, once the two decoders of a payload agree. -/
theorem step_slots {b : BodyReader} {x : List UInt8 × Nat}
    (hb : ∀ cmd, o.decodeArgsWith b cat cmd (x.1.drop headerSize) =
      o.decodeArgs cat cmd (x.1.drop headerSize)) (ms : MultisetValue) :
    (decodeBodyWith.step b cat o decl ms x).slots = (ofRaw decl x).replay cat o ms.slots := by
  obtain ⟨raw, i⟩ := x
  rcases hh : Frame.readHeader raw with e | id
  · simp [decodeBodyWith.step, ofRaw, hh, Frame.parse_of_readHeader_error hh, replay]
  · rcases hm : decl.member? id with _ | ⟨slot, member⟩
    · simp [decodeBodyWith.step, ofRaw, hh, Frame.parse_of_readHeader_ok hh, hm, replay]
    · -- the member's identity is the one looked up, so the sub-frame's own
      -- identity check passes
      have hid := (MultisetDecl.member?_eq_some hm).2
      simp only [decodeBodyWith.step, ofRaw, hh, Frame.parse_of_readHeader_ok hh, hm, replay, decode,
        CodecOptions.decode, hid, ne_eq, not_true_eq_false, if_false, Except.ok_bind, hb]
      split <;> simp [*]

theorem foldl_step_unmatched (b : BodyReader) :
    ∀ (l : List (List UInt8 × Nat)) (ms : MultisetValue),
      (l.foldl (decodeBodyWith.step b cat o decl) ms).unmatched =
        ms.unmatched + (l.map (ofRaw decl)).countP (·.isUnmatched decl.name)
  | [], ms => rfl
  | x :: l, ms => by
    simp only [List.foldl_cons, List.map_cons, List.countP_cons, foldl_step_unmatched b l,
      step_unmatched]
    omega

theorem foldl_step_slots {b : BodyReader} :
    ∀ (l : List (List UInt8 × Nat)), (∀ x ∈ l, ∀ cmd,
      o.decodeArgsWith b cat cmd (x.1.drop headerSize) = o.decodeArgs cat cmd (x.1.drop headerSize)) →
      ∀ ms : MultisetValue, (l.foldl (decodeBodyWith.step b cat o decl) ms).slots =
        (l.map (ofRaw decl)).foldl (replay cat o) ms.slots
  | [], _, ms => rfl
  | x :: l, hb, ms => by
    simp only [List.foldl_cons, List.map_cons]
    rw [foldl_step_slots l (fun y hy => hb y (List.mem_cons_of_mem x hy)),
      step_slots (hb x List.mem_cons_self)]

/-! ## Visiting -/

variable {σ ε : Type} {visit : SubFrame → σ → σ × Option ε} {err : Option WireError}

theorem visitAll_of_never_fails (hv : ∀ s st, (visit s st).2 = none) :
    ∀ (subs : List SubFrame) (st : σ),
      visitAll visit err subs st = (subs.foldl (fun st s => (visit s st).1) st, err.map .inl)
  | [], st => rfl
  | s :: rest, st => by
    rcases hs : visit s st with ⟨st₁, _ | e⟩
    · simp only [visitAll, hs, List.foldl_cons]
      exact visitAll_of_never_fails hv rest st₁
    · have := hv s st
      rw [hs] at this
      cases this

/-- A walk through sub-frames the visitor accepts goes on from where they
left the visitor. -/
theorem visitAll_append : ∀ (pre rest : List SubFrame) {st st₁ : σ},
    visitAll visit none pre st = (st₁, none) →
      visitAll visit err (pre ++ rest) st = visitAll visit err rest st₁
  | [], rest, st, st₁, h => by
    simp only [visitAll, Option.map_none, Prod.mk.injEq] at h
    rw [h.1, List.nil_append]
  | s :: pre, rest, st, st₁, h => by
    rcases hs : visit s st with ⟨st₂, _ | e⟩
    · simp only [visitAll, hs] at h
      simp only [List.cons_append, visitAll, hs]
      exact visitAll_append pre rest h
    · simp [visitAll, hs] at h

end SubFrame

/-! ## The walk against the decoding -/

variable {decl : MultisetDecl} {region : List UInt8}

theorem forEachSubmessage_eq {σ ε : Type} (visit : SubFrame → σ → σ × Option ε) (init : σ) :
    forEachSubmessage decl region visit init =
      SubFrame.visitAll visit (walkMultiset decl region).2 (walkMultiset decl region).1 init :=
  rfl

theorem walkMultiset_subs (decl : MultisetDecl) (region : List UInt8) :
    ∃ raws : List (List UInt8), (walkMultiset decl region).1 = raws.zipIdx.map (SubFrame.ofRaw decl) := by
  unfold walkMultiset
  rcases regionBody decl region with e | body
  · exact ⟨[], rfl⟩
  · exact ⟨_, rfl⟩

theorem walkMultiset_error_iff {e : WireError} :
    (walkMultiset decl region).2 = some e ↔ o.decodeMultiset cat decl region = .error e := by
  unfold walkMultiset CodecOptions.decodeMultiset
  rcases regionBody decl region with e' | body
  · simp
  · simp only [Except.ok_bind, decodeBodyWith]
    rcases subframes (body.length + 1) ⟨body, 0⟩ with ⟨raws, _ | e'⟩ <;> simp

theorem regionBody_length_le {body : List UInt8} (h : regionBody decl region = .ok body) :
    body.length ≤ region.length := by
  simp only [regionBody, Except.mapError_eq_ok, Except.bind_eq_ok] at h
  obtain ⟨⟨k, c⟩, hword, ⟨bs, c'⟩, htake, h⟩ := h
  split at h
  · simp only [Except.pure_eq_ok, Except.ok.injEq] at h
    subst h
    obtain ⟨-, hrest, -⟩ := Cursor.take_eq_ok htake
    have := Cursor.word_rest_le hword
    have := congrArg List.length hrest
    simp only [List.length_append] at this
    simp only at *
    omega
  · cases h

/-- What a region decoded whole is made of: its body's sub-frames, each
stepped once, and none left unwalked. -/
theorem decodeMultiset_eq_ok {ms : MultisetValue} {err : Option WireError}
    (h : o.decodeMultiset cat decl region = .ok (ms, err)) :
    ∃ body raws, regionBody decl region = .ok body ∧ body.length ≤ region.length ∧
      subframes (body.length + 1) ⟨body, 0⟩ = (raws, none) ∧
      (walkMultiset decl region).1 = raws.zipIdx.map (SubFrame.ofRaw decl) ∧
      ms = raws.zipIdx.foldl
        (decodeBodyWith.step (o.bodyReader cat (region.length + 1)) cat o decl) (Slots.empty decl) := by
  simp only [CodecOptions.decodeMultiset, Except.bind_eq_ok] at h
  obtain ⟨body, hbody, ms', hms', h⟩ := h
  simp only [Except.pure_eq_ok, Except.ok.injEq, Prod.mk.injEq] at h
  obtain ⟨rfl, -⟩ := h
  simp only [decodeBodyWith] at hms'
  rcases hwalk : subframes (body.length + 1) ⟨body, 0⟩ with ⟨raws, _ | e⟩
  · simp only [hwalk, Except.pure_eq_ok, Except.ok.injEq] at hms'
    refine ⟨body, raws, hbody, regionBody_length_le hbody, hwalk, ?_, hms'.symm⟩
    simp only [walkMultiset, hbody, hwalk]
  · simp [hwalk] at hms'

/-- How walking a multiset region sub-frame by sub-frame agrees with decoding
it whole. -/
structure WalkAgrees (cat : Catalog) (o : CodecOptions) (decl : MultisetDecl)
    (region : List UInt8) : Prop where
  /-- A visitor that never fails sees every sub-frame in wire order, and the
  walk fails exactly with the structural failure decoding reports. -/
  complete : ∀ {σ ε : Type} (visit : SubFrame → σ → σ × Option ε) (init : σ),
    (∀ s st, (visit s st).2 = none) →
      (forEachSubmessage decl region visit init).1 =
        (walkMultiset decl region).1.foldl (fun st s => (visit s st).1) init ∧
      ∀ e, (forEachSubmessage decl region visit init).2 = some e ↔
        ∃ w, e = .inl w ∧ o.decodeMultiset cat decl region = .error w
  /-- Sub-frames are numbered from zero in wire order. -/
  indices : (walkMultiset decl region).1.map (·.index) =
    List.range (walkMultiset decl region).1.length
  /-- A sub-frame is matched to slot `i` exactly when it carries member `i`'s
  identity. -/
  matched : ∀ s ∈ (walkMultiset decl region).1, ∀ i c, s.member = some (i, c) ↔
    ∃ f, s.frame = .ok f ∧ decl.members[i]? = some c ∧ c.identity = f.id
  /-- The sub-frames refused as no member are those decoding counts. -/
  unmatched : ∀ ms err, o.decodeMultiset cat decl region = .ok (ms, err) →
    (walkMultiset decl region).1.countP (·.isUnmatched decl.name) = ms.unmatched
  /-- Replaying the decoded members in wire order, the later winning, gives the
  decoded slots. -/
  slots : ∀ ms err, o.decodeMultiset cat decl region = .ok (ms, err) →
    (walkMultiset decl region).1.foldl (SubFrame.replay cat o) (Slots.empty decl : MultisetValue).slots =
      ms.slots
  /-- A visitor's failure stops the walk after that sub-frame and is returned
  as it is. -/
  stops : ∀ {σ ε : Type} (visit : SubFrame → σ → σ × Option ε) (init : σ) pre s post st st' e,
    (walkMultiset decl region).1 = pre ++ s :: post →
    SubFrame.visitAll visit none pre init = (st, none) → visit s st = (st', some e) →
      forEachSubmessage decl region visit init = (st', some (.inr e))

/-- Walking a multiset region of distinct member identities agrees with
decoding it whole. -/
theorem forEachSubmessage_agrees (cat : Catalog) (o : CodecOptions)
    (hnd : (decl.members.map Command.identity).Nodup) (region : List UInt8) :
    WalkAgrees cat o decl region where
  complete visit init hv := by
    rw [forEachSubmessage_eq, SubFrame.visitAll_of_never_fails hv]
    refine ⟨rfl, fun e => ?_⟩
    simp only [Option.map_eq_some_iff, ← walkMultiset_error_iff]
    constructor
    · rintro ⟨w, hw, rfl⟩
      exact ⟨w, rfl, hw⟩
    · rintro ⟨w, rfl, hw⟩
      exact ⟨w, hw, rfl⟩
  indices := by
    obtain ⟨raws, hsubs⟩ := walkMultiset_subs decl region
    rw [hsubs, List.map_map, List.length_map, List.length_zipIdx, List.range_eq_range']
    have hindex : (·.index) ∘ SubFrame.ofRaw decl = Prod.snd := funext SubFrame.ofRaw_index
    rw [hindex, List.zipIdx_map_snd]
  matched s hs i c := by
    obtain ⟨raws, hsubs⟩ := walkMultiset_subs decl region
    rw [hsubs, List.mem_map] at hs
    obtain ⟨x, -, rfl⟩ := hs
    simp only [SubFrame.ofRaw_member_eq_some, MultisetDecl.member?_eq_some_iff hnd]
  unmatched ms err h := by
    obtain ⟨body, raws, -, -, -, hsubs, rfl⟩ := decodeMultiset_eq_ok h
    rw [hsubs, SubFrame.foldl_step_unmatched]
    simp [Slots.empty]
  slots ms err h := by
    obtain ⟨body, raws, -, hle, hwalk, hsubs, rfl⟩ := decodeMultiset_eq_ok h
    rw [hsubs, SubFrame.foldl_step_slots]
    -- every payload lies inside the region, so the region's fuel reaches it
    intro x hx cmd
    have hraw : x.1 ∈ (subframes (body.length + 1) ⟨body, 0⟩).1 := by
      rw [hwalk]
      exact List.fst_mem_of_mem_zipIdx hx
    have hlen : x.1.length ≤ body.length := length_le_of_mem_subframes _ _ hraw
    exact decodeArgsWith_bodyReader (by simp only [List.length_drop]; omega) cmd
  stops visit init pre s post st st' e hsubs hpre hs := by
    rw [forEachSubmessage_eq, hsubs, SubFrame.visitAll_append pre (s :: post) hpre]
    simp only [SubFrame.visitAll, hs]

/-- Two members of one class, and a region holding one sub-frame of the second. -/
theorem forEachSubmessage_settings :
    ([({ name := "A", feature := 1, cls := 2, id := 0 } : Command),
        { name := "B", feature := 1, cls := 2, id := 1 }].map Command.identity).Nodup ∧
      WalkAgrees [] {} ⟨"Settings", 0, [{ name := "A", feature := 1, cls := 2, id := 0 },
        { name := "B", feature := 1, cls := 2, id := 1 }]⟩ [6, 0, 4, 0, 1, 2, 1, 0] :=
  ⟨by decide, forEachSubmessage_agrees [] {} (by decide) _⟩

end DroneProtocol
