import DroneProtocol.Proofs.Wire.Canonical

/-! # Decoded values carry their declarations

Main statement: `decodeArgs_inCatalog`, every multiset value decoding gives,
at any depth, carries the declaration its reference resolves to. The proof
follows the decoder, with the body reader tied `k` levels deep by induction
on `k`. -/

namespace DroneProtocol

open CodecOptions

variable {o : CodecOptions} {cat : Catalog} {body : BodyReader}

/-- `body` reads every declaration reached from `args` into a value of that
declaration whose arguments carry the catalog's declarations. -/
def BodiesInCatalog (cat : Catalog) (args : List Arg) (body : BodyReader) : Prop :=
  ∀ d, cat.Reaches args d → ∀ region (ms : MultisetValue), body d region = .ok ms →
    ms.decl = d ∧ ∀ s ∈ ms.slots, ∀ vs ∈ s, ∀ w ∈ vs, w.InCatalog cat

theorem BodiesInCatalog.mono {args args' : List Arg} (h : BodiesInCatalog cat args body)
    (hargs : ∀ d, cat.Reaches args' d → cat.Reaches args d) : BodiesInCatalog cat args' body :=
  fun d hr => h d (hargs d hr)

/-- Only a multiset argument decodes to a multiset value, and it is the value
the body reader gives for the declaration its reference resolves to. -/
theorem decodeArgWith_eq_multiset {a : Arg} {c c' : Cursor} {m : MultisetValue}
    (h : o.decodeArgWith body cat a c = .ok (.multiset (some m), c')) :
    a.type = .multiset ∧ ∃ region,
      body ((cat.resolve? (a.multiset.getD ⟨"", 0⟩)).getD
        ⟨(a.multiset.getD ⟨"", 0⟩).name, (a.multiset.getD ⟨"", 0⟩).key, []⟩) region = .ok m := by
  cases hty : a.type
  case multiset =>
    simp only [decodeArgWith, hty, Except.bind_eq_ok, Except.mapError_eq_ok] at h
    obtain ⟨_, -, region, -, ms, hms, h⟩ := h
    refine ⟨rfl, region.1, ?_⟩
    split at h
    · cases h
    · simp only [Except.pure_eq_ok, Except.ok.injEq, Prod.mk.injEq, Value.multiset.injEq,
        Option.some.injEq] at h
      rw [hms, h.1]
  case binary =>
    simp only [decodeArgWith, hty, Except.bind_eq_ok] at h
    obtain ⟨_, -, h⟩ := h
    split at h <;> simp [Except.bind_eq_ok] at h
  case enum =>
    simp only [decodeArgWith, hty, Except.bind_eq_ok] at h
    obtain ⟨_, -, h⟩ := h
    split at h <;> simp at h
  case bitfield =>
    simp only [decodeArgWith, hty] at h
    split at h <;> simp [Except.bind_eq_ok] at h
  all_goals simp [decodeArgWith, hty, Except.bind_eq_ok, decodeText] at h

/-- A decoded argument carries the catalog's declarations. -/
theorem decodeArgWith_inCatalog {a : Arg} {c c' : Cursor} {v : Value} (hwf : a.WellFormed cat)
    (hbody : BodiesInCatalog cat [a] body) (h : o.decodeArgWith body cat a c = .ok (v, c')) :
    v.InCatalog cat := by
  by_cases hv : ∃ m, v = .multiset (some m)
  · obtain ⟨m, rfl⟩ := hv
    obtain ⟨ha, region, hm⟩ := decodeArgWith_eq_multiset h
    obtain ⟨r, d, hr, hres, href⟩ := hwf.multiset ha
    simp only [hr, Option.getD_some, hres] at hm
    obtain ⟨hdecl, hslots⟩ := hbody d (.named ⟨a, List.mem_singleton_self a, ha, r, hr, hres⟩)
      region m hm
    refine .multiset ?_ hslots
    rw [hdecl, href, hres]
  · exact .leaf fun m hm => hv ⟨m, hm⟩

theorem decodeArgsWith_go_inCatalog (cmd : Command) :
    ∀ {args : List Arg} {i : Nat} {c : Cursor} {vs : List Value},
      (∀ a ∈ args, a.WellFormed cat) → BodiesInCatalog cat args body →
      decodeArgsWith.go body cat o cmd i args c = .ok vs → ∀ v ∈ vs, v.InCatalog cat
  | [], i, c, vs, _, _, h => by
    simp only [decodeArgsWith.go] at h
    split at h
    · cases h
      simp
    · cases h
  | a :: as, i, c, vs, hwf, hbody, h => by
    simp only [decodeArgsWith.go, Except.bind_eq_ok, Except.mapError_eq_ok] at h
    obtain ⟨⟨v, c'⟩, hv, rest, hrest, h⟩ := h
    cases h
    intro w hw
    rcases List.mem_cons.mp hw with rfl | hw
    · exact decodeArgWith_inCatalog (hwf a (by simp))
        (hbody.mono fun _ hd => hd.mono (by simp)) hv
    · exact decodeArgsWith_go_inCatalog cmd (fun a ha => hwf a (by simp [ha]))
        (hbody.mono fun _ hd => hd.mono (by simp +contextual)) hrest w hw

section Body

variable {d : MultisetDecl}

/-- One step of the walk over a body keeps the declaration and keeps the
arguments of every set slot in the catalog. -/
theorem step_inCatalog (hwf : ∀ m ∈ d.members, ∀ a ∈ m.args, a.WellFormed cat)
    (hbody : ∀ m ∈ d.members, BodiesInCatalog cat m.args body) {S : MultisetValue}
    (hS : S.decl = d ∧ ∀ s ∈ S.slots, ∀ vs ∈ s, ∀ w ∈ vs, w.InCatalog cat) (x : List UInt8 × Nat) :
    (decodeBodyWith.step body cat o d S x).decl = d ∧
      ∀ s ∈ (decodeBodyWith.step body cat o d S x).slots, ∀ vs ∈ s, ∀ w ∈ vs, w.InCatalog cat := by
  obtain ⟨raw, i⟩ := x
  simp only [decodeBodyWith.step]
  split
  · exact hS
  · split
    · exact hS
    · rename_i slot member hmember
      have hmem := MultisetDecl.mem_of_member? hmember
      split
      · exact hS
      · rename_i args hargs
        refine ⟨hS.1, fun s hs vs hvs w hw => ?_⟩
        rcases List.mem_or_eq_of_mem_set hs with hs | rfl
        · exact hS.2 s hs vs hvs w hw
        · obtain rfl : vs = args := by simpa using hvs.symm
          exact decodeArgsWith_go_inCatalog member (hwf member hmem) (hbody member hmem) hargs w hw

theorem foldl_step_inCatalog (hwf : ∀ m ∈ d.members, ∀ a ∈ m.args, a.WellFormed cat)
    (hbody : ∀ m ∈ d.members, BodiesInCatalog cat m.args body) :
    ∀ (l : List (List UInt8 × Nat)) {S : MultisetValue},
      S.decl = d ∧ (∀ s ∈ S.slots, ∀ vs ∈ s, ∀ w ∈ vs, w.InCatalog cat) →
      (l.foldl (decodeBodyWith.step body cat o d) S).decl = d ∧
        ∀ s ∈ (l.foldl (decodeBodyWith.step body cat o d) S).slots, ∀ vs ∈ s, ∀ w ∈ vs,
          w.InCatalog cat
  | [], _, hS => hS
  | x :: l, _, hS => foldl_step_inCatalog hwf hbody l (step_inCatalog hwf hbody hS x)

end Body

theorem decodeBodyWith_inCatalog {args : List Arg}
    (hwf : ∀ d, cat.Reaches args d → d.WellFormed cat) (h : BodiesInCatalog cat args body) :
    BodiesInCatalog cat args (o.decodeBodyWith body cat) := by
  intro d hr region ms hms
  obtain ⟨-, hargs⟩ := hwf d hr
  have hmembers : ∀ m ∈ d.members, BodiesInCatalog cat m.args body :=
    fun m hm => h.mono fun _ hd => hr.through hm hd
  rcases hw : subframes (region.length + 1) ⟨region, 0⟩ with ⟨raws, err⟩
  simp only [decodeBodyWith, hw] at hms
  split at hms
  · cases hms
  · simp only [Except.pure_eq_ok, Except.ok.injEq] at hms
    subst hms
    refine foldl_step_inCatalog hargs hmembers _ ⟨rfl, ?_⟩
    simp [Slots.empty]

theorem bodyReader_inCatalog {args : List Arg} (hwf : ∀ d, cat.Reaches args d → d.WellFormed cat) :
    ∀ k, BodiesInCatalog cat args (o.bodyReader cat k)
  | 0 => fun _ _ _ _ h => by simp [bodyReader] at h
  | k + 1 => decodeBodyWith_inCatalog hwf (bodyReader_inCatalog hwf k)

/-- Every multiset value decoded for a well-formed command, at any depth,
carries the declaration its reference resolves to. -/
theorem decodeArgs_inCatalog {cmd : Command} {p : List UInt8} {vs : List Value}
    (hwf : cmd.WellFormedIn cat) (h : o.decodeArgs cat cmd p = .ok vs) :
    ∀ v ∈ vs, v.InCatalog cat :=
  decodeArgsWith_go_inCatalog cmd hwf.args (bodyReader_inCatalog hwf.reached _) h

end DroneProtocol
