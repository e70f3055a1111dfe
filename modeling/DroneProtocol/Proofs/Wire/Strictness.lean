import DroneProtocol.Proofs.Wire.Aggregation
import DroneProtocol.Proofs.Wire.Decoded

/-! # Strict multiset decoding

Main statement: `decodeArgs_strict_refines`, whatever the strict codec
decodes the lenient one decodes alike, with no failure recorded at any depth.
The converse fails: `strict_rejects_replaced_failure`. -/

namespace DroneProtocol

open CodecOptions

/-- Every multiset value inside a value, at any depth, was decoded without a
member failure. -/
inductive Value.Clean : Value → Prop
  | leaf {v : Value} : (∀ m, v ≠ .multiset (some m)) → v.Clean
  | multiset {m : MultisetValue} : m.errors = [] →
      (∀ s ∈ m.slots, ∀ vs ∈ s, ∀ w ∈ vs, w.Clean) → (Value.multiset (some m)).Clean

variable {o : CodecOptions} {cat : Catalog}

/-- The strict body reader `s` refines the lenient `l`: a body that `s` reads
without a member failure, `l` reads to the same value, clean at every depth. -/
def BodiesRefine (s l : BodyReader) : Prop :=
  ∀ d r (ms : MultisetValue), s d r = .ok ms → ms.errors = [] →
    l d r = .ok ms ∧ (Value.multiset (some ms)).Clean

section Levels

variable {sb lb : BodyReader}

theorem decodeText_strictMultiset (b : Bool) :
    ({ o with strictMultiset := b } : CodecOptions).decodeText = o.decodeText := rfl

/-- One argument: a multiset argument the strict codec accepts has no member
failure, and every other argument reads the same bytes in both modes. -/
theorem decodeArgWith_refines (h : BodiesRefine sb lb) {a : Arg} {c c' : Cursor} {v : Value}
    (hs : ({ o with strictMultiset := true } : CodecOptions).decodeArgWith sb cat a c = .ok (v, c')) :
    ({ o with strictMultiset := false } : CodecOptions).decodeArgWith lb cat a c = .ok (v, c') ∧
      v.Clean := by
  cases hty : a.type
  case multiset =>
    simp only [decodeArgWith, hty, Except.bind_eq_ok, Except.mapError_eq_ok] at hs ⊢
    obtain ⟨⟨n, c₁⟩, hword, ⟨region, c₂⟩, htake, ms, hms, hs⟩ := hs
    -- the strict codec refuses a multiset with a member failure
    have herr : ms.errors = [] := by
      cases hme : ms.errors with
      | nil => rfl
      | cons e rest => simp [hme] at hs
    simp only [herr, Except.pure_eq_ok, Except.ok.injEq, Prod.mk.injEq] at hs
    obtain ⟨rfl, rfl⟩ := hs
    obtain ⟨hlb, hclean⟩ := h _ _ ms hms herr
    exact ⟨⟨(n, c₁), hword, (region, c₂), htake, ms, hlb, by simp⟩, hclean⟩
  all_goals
    have heq : ({ o with strictMultiset := false } : CodecOptions).decodeArgWith lb cat a c =
        ({ o with strictMultiset := true } : CodecOptions).decodeArgWith sb cat a c := by
      simp only [decodeArgWith, hty, decodeText_strictMultiset]
    refine ⟨heq.trans hs, .leaf fun m hm => ?_⟩
    subst hm
    have := (decodeArgWith_eq_multiset hs).1
    rw [hty] at this
    cases this

theorem decodeArgsWith_go_refines (h : BodiesRefine sb lb) (cmd : Command) :
    ∀ (i : Nat) (args : List Arg) (c : Cursor) {vs : List Value},
      decodeArgsWith.go sb cat { o with strictMultiset := true } cmd i args c = .ok vs →
      decodeArgsWith.go lb cat { o with strictMultiset := false } cmd i args c = .ok vs ∧
        ∀ v ∈ vs, v.Clean
  | i, [], c, vs, hs => by
    simp only [decodeArgsWith.go] at hs ⊢
    split at hs
    · cases hs
      exact ⟨by simp [*], by simp⟩
    · cases hs
  | i, a :: as, c, vs, hs => by
    simp only [decodeArgsWith.go, Except.bind_eq_ok, Except.mapError_eq_ok] at hs
    obtain ⟨⟨v, c'⟩, hv, rest, hrest, hs⟩ := hs
    cases hs
    obtain ⟨hlv, hclean⟩ := decodeArgWith_refines h hv
    obtain ⟨hlrest, hcleans⟩ := decodeArgsWith_go_refines h cmd (i + 1) as c' hrest
    refine ⟨?_, ?_⟩
    · simp [decodeArgsWith.go, hlv, hlrest]
    · intro w hw
      rcases List.mem_cons.mp hw with rfl | hw
      · exact hclean
      · exact hcleans w hw

def SlotsClean (ms : MultisetValue) : Prop := ∀ s ∈ ms.slots, ∀ vs ∈ s, ∀ w ∈ vs, w.Clean

/-- One step of the walk over a body: a step the strict codec takes without a
failure, the lenient one takes to the same value, and the slot it may fill is
clean. -/
theorem step_refines (h : BodiesRefine sb lb) {d : MultisetDecl} {S : MultisetValue}
    (hS : SlotsClean S) (raw : List UInt8) (i : Nat)
    (hs : (decodeBodyWith.step sb cat { o with strictMultiset := true } d S (raw, i)).errors = []) :
    decodeBodyWith.step lb cat { o with strictMultiset := false } d S (raw, i) =
        decodeBodyWith.step sb cat { o with strictMultiset := true } d S (raw, i) ∧
      SlotsClean (decodeBodyWith.step sb cat { o with strictMultiset := true } d S (raw, i)) := by
  rcases decodeBodyWith.step_cases sb cat { o with strictMultiset := true } d S raw i with
    ⟨e, hh, hstep⟩ | ⟨id, hh, hm, hstep⟩ | ⟨id, j, m, hh, hm, ⟨e, -, hstep⟩ | ⟨args, hd, hstep⟩⟩
  · simp [hstep] at hs
  · rw [hstep]
    exact ⟨by simp [decodeBodyWith.step, hh, hm], hS⟩
  · simp [hstep] at hs
  · -- the member decodes strictly, hence leniently to the same clean arguments
    obtain ⟨hld, hclean⟩ := decodeArgsWith_go_refines h m 0 m.args _ hd
    rw [hstep]
    refine ⟨by simp [decodeBodyWith.step, hh, hm, decodeArgsWith, hld], ?_⟩
    intro s hs' vs hvs w hw
    rcases List.mem_or_eq_of_mem_set hs' with hs' | rfl
    · exact hS s hs' vs hvs w hw
    · obtain rfl : vs = args := by simpa using hvs.symm
      exact hclean w hw

/-- The whole walk: a walk the strict codec ends without a failure, the
lenient one walks to the same value, with clean slots. -/
theorem foldl_step_refines (h : BodiesRefine sb lb) {d : MultisetDecl} :
    ∀ (l : List (List UInt8 × Nat)) (S : MultisetValue), SlotsClean S →
      (l.foldl (decodeBodyWith.step sb cat { o with strictMultiset := true } d) S).errors = [] →
      l.foldl (decodeBodyWith.step lb cat { o with strictMultiset := false } d) S =
          l.foldl (decodeBodyWith.step sb cat { o with strictMultiset := true } d) S ∧
        SlotsClean (l.foldl (decodeBodyWith.step sb cat { o with strictMultiset := true } d) S)
  | [], S, hS, _ => ⟨rfl, hS⟩
  | (raw, i) :: l, S, hS, hs => by
    -- failures are only ever appended, so the first step recorded none either
    have hfirst : (decodeBodyWith.step sb cat { o with strictMultiset := true } d S (raw, i)).errors
        = [] :=
      List.prefix_nil.mp (hs ▸ decodeBodyWith.foldl_errors_grow l _)
    obtain ⟨heq, hS'⟩ := step_refines h hS raw i hfirst
    simp only [List.foldl_cons, heq]
    exact foldl_step_refines h l _ hS' hs

theorem decodeBodyWith_refines (h : BodiesRefine sb lb) :
    BodiesRefine (({ o with strictMultiset := true } : CodecOptions).decodeBodyWith sb cat)
      (({ o with strictMultiset := false } : CodecOptions).decodeBodyWith lb cat) := by
  intro d r ms hs herr
  simp only [decodeBodyWith] at hs ⊢
  rcases hwalk : subframes (r.length + 1) ⟨r, 0⟩ with ⟨raws, _ | e⟩
  · simp only [hwalk, Except.pure_eq_ok, Except.ok.injEq] at hs ⊢
    subst hs
    have hempty : SlotsClean (Slots.empty d : MultisetValue) := by
      simp [SlotsClean, Slots.empty]
    obtain ⟨heq, hclean⟩ := foldl_step_refines h raws.zipIdx _ hempty herr
    exact ⟨heq, .multiset herr hclean⟩
  · simp [hwalk] at hs

theorem bodyReader_refines : ∀ k, BodiesRefine
    (({ o with strictMultiset := true } : CodecOptions).bodyReader cat k)
    (({ o with strictMultiset := false } : CodecOptions).bodyReader cat k)
  | 0 => fun _ _ _ hs => by simp [bodyReader] at hs
  | k + 1 => decodeBodyWith_refines (bodyReader_refines k)

end Levels

/-- Strict multiset decoding refines the lenient one: arguments the strict
codec decodes, the lenient codec decodes to the same arguments, with no member
failure recorded in any multiset at any depth. So a lenient failure, or a
member failure at any depth of a lenient result, makes the strict codec fail. -/
theorem decodeArgs_strict_refines (o : CodecOptions) (cat : Catalog) (cmd : Command)
    (p : List UInt8) {vs : List Value}
    (h : ({ o with strictMultiset := true } : CodecOptions).decodeArgs cat cmd p = .ok vs) :
    ({ o with strictMultiset := false } : CodecOptions).decodeArgs cat cmd p = .ok vs ∧
      ∀ v ∈ vs, v.Clean :=
  decodeArgsWith_go_refines (bodyReader_refines _) cmd 0 cmd.args _ h

/-! ## Nested sets -/

def intSetting : Command :=
  { name := "kit.Sets.Alpha", feature := 7, cls := 2, id := 0, args := [⟨"x", .i32, none, .i8, none⟩] }

def settingsSet : MultisetDecl := ⟨"settings", 0, [intSetting]⟩

def applySettings : Command :=
  { name := "kit.Sets.Apply", feature := 7, cls := 2, id := 4,
    args := [⟨"ms", .multiset, none, .i8, some settingsSet.ref⟩] }

def outerSet : MultisetDecl := ⟨"outer", 1, [applySettings]⟩

def applyOuter : Command :=
  { name := "kit.Sets.ApplyOuter", feature := 7, cls := 2, id := 6,
    args := [⟨"o", .multiset, none, .i8, some outerSet.ref⟩] }

def nestedCatalog : Catalog := [settingsSet, outerSet]

/-- The outer set's region holding one sub-frame of `applySettings`, with an
empty set of settings. -/
def emptySettings : List UInt8 := [8, 0, 6, 0, 7, 2, 4, 0, 0, 0]

def emptySettingsValue : Value :=
  .multiset (some { decl := outerSet, slots := [some [.multiset (some (Slots.empty settingsSet))]] })

theorem strict_refines_emptySettings :
    ({ ({} : CodecOptions) with strictMultiset := true } : CodecOptions).decodeArgs nestedCatalog
        applyOuter emptySettings = .ok [emptySettingsValue] ∧
      ({ ({} : CodecOptions) with strictMultiset := false } : CodecOptions).decodeArgs nestedCatalog
        applyOuter emptySettings = .ok [emptySettingsValue] ∧ ∀ v ∈ [emptySettingsValue], v.Clean :=
  ⟨rfl, decodeArgs_strict_refines {} nestedCatalog applyOuter emptySettings rfl⟩

/-- The outer set's region holding two sub-frames of `applySettings`: the first
carries a setting two bytes short, the second an empty set of settings. -/
def replacedFailure : List UInt8 :=
  [24, 0, 14, 0, 7, 2, 4, 0, 8, 0, 6, 0, 7, 2, 0, 0, 1, 2, 6, 0, 7, 2, 4, 0, 0, 0]

theorem applyOuter_wellFormed : applyOuter.WellFormedIn nestedCatalog := by
  refine .of_catalog (fun a ha => ?_) fun d hd => ?_
  · simp only [applyOuter, List.mem_singleton] at ha
    subst ha
    exact ⟨_, outerSet, rfl, rfl, rfl⟩
  · simp only [nestedCatalog, List.mem_cons, List.not_mem_nil, or_false] at hd
    rcases hd with rfl | rfl
    · refine ⟨by decide, fun m hm a ha => ?_⟩
      simp only [settingsSet, List.mem_singleton] at hm
      subst hm
      simp only [intSetting, List.mem_singleton] at ha
      subst ha
      trivial
    · refine ⟨by decide, fun m hm a ha => ?_⟩
      simp only [outerSet, List.mem_singleton] at hm
      subst hm
      simp only [applySettings, List.mem_singleton] at ha
      subst ha
      exact ⟨_, settingsSet, rfl, rfl, rfl⟩

/-- The strict codec fails the first sub-frame of the outer set, which its
nested failure fails, and so the command; the lenient codec lets the second
sub-frame replace the first and keeps no failure at any depth. -/
theorem strict_rejects_replaced_failure :
    applyOuter.WellFormedIn nestedCatalog ∧
      ¬ ((∃ vs, ({ strictMultiset := true } : CodecOptions).decodeArgs nestedCatalog applyOuter
          replacedFailure = .ok vs) ↔
        ∃ vs, ({} : CodecOptions).decodeArgs nestedCatalog applyOuter replacedFailure = .ok vs ∧
          ∀ v ∈ vs, v.Clean) := by
  refine ⟨applyOuter_wellFormed, fun hiff => ?_⟩
  have hstrict : ∃ e, ({ strictMultiset := true } : CodecOptions).decodeArgs nestedCatalog
      applyOuter replacedFailure = .error e := ⟨_, rfl⟩
  let inner : MultisetValue := { decl := settingsSet, slots := [none] }
  have hlenient : ({} : CodecOptions).decodeArgs nestedCatalog applyOuter replacedFailure =
      .ok [.multiset (some { decl := outerSet, slots := [some [.multiset (some inner)]] })] := rfl
  have hclean : ∀ v ∈ [Value.multiset (some { decl := outerSet, slots := [some [.multiset (some inner)]] })],
      v.Clean := by
    have hinner : (Value.multiset (some inner)).Clean := .multiset rfl (by simp [inner])
    simp only [List.mem_singleton, forall_eq]
    exact .multiset rfl (by simpa using hinner)
  obtain ⟨vs, hvs⟩ := hiff.mpr ⟨_, hlenient, hclean⟩
  obtain ⟨e, he⟩ := hstrict
  rw [he] at hvs
  cases hvs

end DroneProtocol
