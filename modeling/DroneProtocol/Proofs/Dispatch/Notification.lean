import DroneProtocol.Proofs.Dispatch.Requests

/-! # What a notification delivers

Callbacks run inside a notification may release bindings, so which observers
run depends on what ran before. `Tracks` and `Turns` state that without the
intermediate registries. Main statement: `notify_delivers`. -/

namespace DroneProtocol

/-- A run of a callback as the journal keeps it: the callback, and the command
and arguments it received. -/
abbrev Call := String × String × List Value

def Invocation.call (i : Invocation) : Call := (i.callback, i.command, i.args)

namespace Registry

def calls (r : Registry) : List Call := r.journal.invocations.toList.map Invocation.call

def reactionOf (reactions : List (String × Reaction)) (cb : String) : Reaction :=
  ((reactions.find? (·.1 == cb)).map (·.2)).getD .accept

def Asks (reactions : List (String × Reaction)) (runs : List Call) (k : Nat) : Prop :=
  ∃ c ∈ runs, reactionOf reactions c.1 = .release k

theorem asks_append {reactions : List (String × Reaction)} {runs runs' : List Call} {k : Nat} :
    Asks reactions (runs ++ runs') k ↔ Asks reactions runs k ∨ Asks reactions runs' k := by
  simp only [Asks, List.mem_append]
  constructor
  · rintro ⟨c, hc | hc, hr⟩
    · exact .inl ⟨c, hc, hr⟩
    · exact .inr ⟨c, hc, hr⟩
  · rintro (⟨c, hc, hr⟩ | ⟨c, hc, hr⟩)
    · exact ⟨c, .inl hc, hr⟩
    · exact ⟨c, .inr hc, hr⟩

@[simp] theorem asks_nil {reactions : List (String × Reaction)} {k : Nat} :
    ¬ Asks reactions [] k := by
  simp [Asks]

/-- What an operation run inside a notification did from `s` to `s'`: it
appended the runs `new` to the journal, kept the reactions, left nothing
pending and every existing binding in place, and released exactly the
existing bindings that were released before or that a run in `new` asked to
release. -/
structure Tracks (s s' : Registry) (new : List Call) : Prop where
  calls_eq : s'.calls = s.calls ++ new
  reactions_eq : s'.reactions = s.reactions
  pending_eq : s'.pending = []
  size_le : s.bindings.size ≤ s'.bindings.size
  released_iff : ∀ k < s.bindings.size,
    s'.isReleased k = true ↔ s.isReleased k = true ∨ Asks s.reactions new k

theorem Tracks.refl {s : Registry} (h : s.pending = []) : Tracks s s [] :=
  ⟨by simp, rfl, h, le_refl _, fun _ _ => by simp⟩

theorem Tracks.trans {s₁ s₂ s₃ : Registry} {new₁ new₂ : List Call} (h₁ : Tracks s₁ s₂ new₁)
    (h₂ : Tracks s₂ s₃ new₂) : Tracks s₁ s₃ (new₁ ++ new₂) where
  calls_eq := by rw [h₂.calls_eq, h₁.calls_eq, List.append_assoc]
  reactions_eq := h₂.reactions_eq.trans h₁.reactions_eq
  pending_eq := h₂.pending_eq
  size_le := h₁.size_le.trans h₂.size_le
  released_iff k hk := by
    rw [h₂.released_iff k (Nat.lt_of_lt_of_le hk h₁.size_le), h₁.released_iff k hk,
      h₁.reactions_eq, asks_append, or_assoc]

theorem Tracks.of_frame {s s' : Registry} (hp : s.pending = []) (hc : s'.calls = s.calls)
    (hr : s'.reactions = s.reactions) (hq : s'.pending = s.pending) (hb : s'.bindings = s.bindings) :
    Tracks s s' [] where
  calls_eq := by rw [hc, List.append_nil]
  reactions_eq := hr
  pending_eq := hq.trans hp
  size_le := hb ▸ le_refl _
  released_iff k _ := by simp [isReleased, hb]

theorem Tracks.trans_nil {s₁ s₂ s₃ : Registry} {new : List Call} (h₁ : Tracks s₁ s₂ new)
    (h₂ : Tracks s₂ s₃ []) : Tracks s₁ s₃ new := by
  simpa using h₁.trans h₂

/-- `s₁` is `s` with the run `c` journalled and nothing else changed. -/
structure Pushed (s s₁ : Registry) (c : Call) : Prop where
  calls_eq : s₁.calls = s.calls ++ [c]
  reactions_eq : s₁.reactions = s.reactions
  pending_eq : s₁.pending = s.pending
  bindings_eq : s₁.bindings = s.bindings

theorem Tracks.of_run {s s₁ : Registry} {c : Call} (hp : s.pending = []) (h : Pushed s s₁ c)
    (hk : ∀ k, reactionOf s.reactions c.1 ≠ .release k) : Tracks s s₁ [c] where
  calls_eq := h.calls_eq
  reactions_eq := h.reactions_eq
  pending_eq := h.pending_eq.trans hp
  size_le := h.bindings_eq ▸ le_refl _
  released_iff k _ := by simp [isReleased, h.bindings_eq, Asks, hk]

/-- The registry-wide facts an update keeps when it touches at most the
observers, the records and the metrics. -/
structure Quiet (s s' : Registry) : Prop where
  calls_eq : s'.calls = s.calls
  reactions_eq : s'.reactions = s.reactions
  pending_eq : s'.pending = s.pending
  bindings_eq : s'.bindings = s.bindings

theorem Quiet.trans {s₁ s₂ s₃ : Registry} (h₁ : Quiet s₁ s₂) (h₂ : Quiet s₂ s₃) : Quiet s₁ s₃ :=
  ⟨h₂.calls_eq.trans h₁.calls_eq, h₂.reactions_eq.trans h₁.reactions_eq,
    h₂.pending_eq.trans h₁.pending_eq, h₂.bindings_eq.trans h₁.bindings_eq⟩

theorem Quiet.tracks {s s' : Registry} (hp : s.pending = []) (h : Quiet s s') : Tracks s s' [] :=
  .of_frame hp h.calls_eq h.reactions_eq h.pending_eq h.bindings_eq

theorem Tracks.quiet {s s' s'' : Registry} {new : List Call} (h : Tracks s s' new)
    (hq : Quiet s' s'') : Tracks s s'' new :=
  h.trans_nil (hq.tracks h.pending_eq)

def QuietOp {α : Type} (x : DispatchM α) : Prop := ∀ s, Quiet s (x.run s).2

section QuietOp
variable {α β : Type}

theorem QuietOp.pure (a : α) : QuietOp (Pure.pure a : DispatchM α) := fun _ => ⟨rfl, rfl, rfl, rfl⟩

theorem QuietOp.bind {x : DispatchM α} {f : α → DispatchM β} (hx : QuietOp x)
    (hf : ∀ a, QuietOp (f a)) : QuietOp (x >>= f) :=
  fun s => (hx s).trans (hf _ _)

theorem QuietOp.forIn {l : List α} {b : β} {f : α → β → DispatchM (ForInStep β)}
    (hf : ∀ a ∈ l, ∀ b, QuietOp (f a b)) : QuietOp (ForIn.forIn l b f) :=
  fun s => forIn_inv (fun _ r => Quiet s r) (fun a ha b r hr => hr.trans (hf a ha b r))
    ⟨rfl, rfl, rfl, rfl⟩

theorem quiet_log (level : Level) (message : String) (attrs : List (String × AttrValue)) :
    QuietOp (log level message attrs) := fun _ => ⟨rfl, rfl, rfl, rfl⟩

theorem quiet_count (f : Metrics → Metrics) : QuietOp (count f) := fun _ => ⟨rfl, rfl, rfl, rfl⟩

theorem quiet_insert (id : Identity) (k : Nat) (cb : String) : QuietOp (insert id k cb) :=
  fun _ => ⟨rfl, rfl, rfl, rfl⟩

theorem quiet_reportMultisets (cmd : Command) (args : List Value) :
    QuietOp (reportMultisets cmd args) := by
  refine (QuietOp.forIn fun v _ _ => ?_).bind fun _ => .pure ()
  split
  · exact (quiet_count _).bind fun _ =>
      (QuietOp.forIn fun _ _ _ => (quiet_log _ _ _).bind fun _ => .pure _).bind fun _ => .pure _
  · exact .pure _

theorem Tracks.bind_quiet {s s₁ : Registry} {new : List Call} {x : DispatchM α}
    {f : α → DispatchM β} (h : Tracks s (x.run s₁).2 new) (hf : ∀ a, QuietOp (f a)) :
    Tracks s ((x >>= f).run s₁).2 new :=
  h.quiet (hf _ _)

end QuietOp

/-! ## Releasing and registering -/

section Release
variable {s : Registry} {k j : Nat}

@[simp] theorem pure_snd {α : Type} (p : α × Registry) : (Pure.pure p : Id (α × Registry)).2 = p.2 :=
  rfl

/-- A release touches only the observers and the released binding. -/
theorem releaseNow_frame (k : Nat) (s : Registry) :
    ((releaseNow k).run s).2.calls = s.calls ∧ ((releaseNow k).run s).2.reactions = s.reactions ∧
      ((releaseNow k).run s).2.pending = s.pending ∧
      ((releaseNow k).run s).2.bindings.size = s.bindings.size := by
  simp only [Registry.releaseNow, run_bind, run_get]
  split
  · exact ⟨rfl, rfl, rfl, rfl⟩
  · split
    · exact ⟨rfl, rfl, rfl, rfl⟩
    · exact ⟨rfl, rfl, rfl, Array.size_setIfInBounds⟩

/-- After releasing `k`, an existing binding is released exactly when it was
before or it is `k`. -/
theorem isReleased_releaseNow_iff (hj : j < s.bindings.size) :
    ((releaseNow k).run s).2.isReleased j = true ↔ s.isReleased j = true ∨ j = k := by
  simp only [Registry.releaseNow, run_bind, run_get]
  split
  · rename_i hb
    have hkj : j ≠ k := by
      rintro rfl
      simp [Array.getElem?_eq_getElem hj] at hb
    simp [hkj]
  · rename_i b hb
    split
    · rename_i hrel
      by_cases hkj : j = k
      · subst hkj
        simp [isReleased, hb, hrel]
      · simp [hkj]
    · by_cases hkj : j = k
      · subst hkj
        simp [isReleased, Array.set!, hj]
      · simp [isReleased, Array.set!, Ne.symm hkj, hkj]

theorem unobserve_some (hp : s.pending = []) : (unobserve (some k)).run s = (releaseNow k).run s := by
  simp only [unobserve, run_bind, drain_of_pending_nil hp]

theorem Tracks.of_release {s₁ : Registry} {c : Call} (hp : s.pending = []) (h : Pushed s s₁ c)
    (hk : reactionOf s.reactions c.1 = .release k) :
    Tracks s ((unobserve (some k)).run s₁).2 [c] := by
  rw [unobserve_some (h.pending_eq.trans hp)]
  obtain ⟨hc', hr', hq', hsize⟩ := releaseNow_frame k s₁
  refine ⟨hc'.trans h.calls_eq, hr'.trans h.reactions_eq, hq'.trans (h.pending_eq.trans hp),
    by rw [hsize, h.bindings_eq], fun j hj => ?_⟩
  rw [isReleased_releaseNow_iff (by rwa [h.bindings_eq]), show s₁.isReleased j = s.isReleased j by
    simp [isReleased, h.bindings_eq]]
  have hasks : Asks s.reactions [c] j ↔ j = k := by
    simp only [Asks, List.mem_singleton, exists_eq_left, hk, Reaction.release.injEq]
    exact eq_comm
  rw [hasks]

theorem Tracks.of_register (hp : s.pending = []) (b : Binding) (p : List Identity × Registry)
    (hq : Quiet { s with bindings := s.bindings.push b } p.2) :
    Tracks s { p.2 with bindings := p.2.bindings.set! s.bindings.size ⟨p.1, p.1.isEmpty⟩ } [] where
  calls_eq := by simpa [calls] using hq.calls_eq
  reactions_eq := hq.reactions_eq
  pending_eq := hq.pending_eq.trans hp
  size_le := by simp [Array.set!, hq.bindings_eq]
  released_iff k hk := by
    have hne : s.bindings.size ≠ k := Nat.ne_of_gt hk
    simp [isReleased, Array.set!, hne, hq.bindings_eq,
      Array.getElem?_push, Nat.ne_of_lt hk]

theorem register_tracks (hp : s.pending = []) (es : List Entry) :
    Tracks s ((register es).run s).2 [] := by
  simp only [register, run_bind, drain_of_pending_nil hp, run_get, run_modify, run_pure]
  refine Tracks.of_register hp ⟨[], false⟩ _ ?_
  refine QuietOp.forIn (fun e _ ids => ?_) _
  split
  · split
    · refine (QuietOp.forIn fun id _ ids => (quiet_insert _ _ _).bind fun _ => ?_).bind
        fun _ => .pure _
      split <;> exact .pure _
    · exact .pure _
  · exact .pure _

end Release

/-! ## Running a callback -/

theorem calls_modify {f : Invocation → Invocation} (hf : ∀ i, (f i).call = i.call) (r : Registry)
    (n : Nat) :
    ({ r with journal.invocations := r.journal.invocations.modify n f } : Registry).calls =
      r.calls := by
  simp only [calls, Array.toList_modify]
  refine List.ext_getElem? fun j => ?_
  simp only [List.getElem?_map, List.getElem?_modify]
  cases r.journal.invocations.toList[j]? with
  | none => rfl
  | some i => by_cases h : n = j <;> simp [h, hf]

/-- From every registry with nothing pending, `x` only journals runs and
releases what they ask to release. -/
def Tracked {α : Type} (x : DispatchM α) : Prop :=
  ∀ s, s.pending = [] → ∃ new, Tracks s (x.run s).2 new

section Tracked
variable {α β : Type}

theorem QuietOp.tracked {x : DispatchM α} (h : QuietOp x) : Tracked x :=
  fun s hp => ⟨[], (h s).tracks hp⟩

theorem Tracked.bind {x : DispatchM α} {f : α → DispatchM β} (hx : Tracked x)
    (hf : ∀ a, Tracked (f a)) : Tracked (x >>= f) := by
  intro s hp
  obtain ⟨new₁, h₁⟩ := hx s hp
  obtain ⟨new₂, h₂⟩ := hf (x.run s).1 _ h₁.pending_eq
  exact ⟨new₁ ++ new₂, h₁.trans h₂⟩

theorem Tracked.get_bind {f : Registry → DispatchM β} (hf : ∀ s, Tracked (f s)) :
    Tracked (get >>= f) :=
  fun s hp => hf s s hp

theorem Tracked.forIn {l : List α} {b : β} {f : α → β → DispatchM (ForInStep β)}
    (hf : ∀ a ∈ l, ∀ b, Tracked (f a b)) : Tracked (ForIn.forIn l b f) := by
  intro s hp
  refine forIn_inv (fun _ s' => ∃ new, Tracks s s' new) (fun a ha b s₁ ⟨new, h₁⟩ => ?_) ⟨[], .refl hp⟩
  obtain ⟨new', h₂⟩ := hf a ha b s₁ h₁.pending_eq
  exact ⟨new ++ new', h₁.trans h₂⟩

theorem tracked_drain : Tracked drain := fun s hp => by
  rw [drain_of_pending_nil hp]
  exact ⟨[], .refl hp⟩

end Tracked

/-- A callback's run is journalled before its reaction; only a `notify`
reaction runs further callbacks, those of the nested notification. -/
theorem invoke_tracks {nest : Option (List UInt8 → DispatchM (Except DispatchError Unit))}
    (hnest : ∀ go ∈ nest, ∀ bytes, Tracked (go bytes)) (cmd : Command) (args : List Value)
    (cb : String) {s : Registry} (hp : s.pending = []) :
    ∃ nested, Tracks s ((invoke nest cmd args cb).run s).2 ((cb, cmd.name, args) :: nested) ∧
      (nested ≠ [] → ∃ bytes, reactionOf s.reactions cb = .notify bytes) := by
  unfold invoke
  rw [run_bind, run_get]
  dsimp -zeta only
  extract_lets slot note jp
  rw [run_bind, run_modify, run_bind, run_get]
  dsimp -zeta only
  generalize hs₁ : ({ s with journal.invocations :=
    s.journal.invocations.push ⟨cb, cmd.name, args, none, none⟩ } : Registry) = s₁
  have hpush : Pushed s s₁ (cb, cmd.name, args) := by
    subst hs₁
    exact ⟨by simp [calls, Invocation.call], rfl, rfl, rfl⟩
  have hp₁ : s₁.pending = [] := hpush.pending_eq.trans hp
  have hnote : ∀ f : Invocation → Invocation, (∀ i, (f i).call = i.call) → QuietOp (note f) :=
    fun f hf r => ⟨calls_modify hf r slot, rfl, rfl, rfl⟩
  have hjp : ∀ failure, QuietOp (jp failure) := by
    intro failure
    refine (quiet_count _).bind fun _ => ?_
    split
    · exact (quiet_count _).bind fun _ => quiet_log _ _ _
    · exact .pure ()
  have hrest : ∀ failure, QuietOp (Pure.pure failure >>= jp) := fun _ => (QuietOp.pure _).bind hjp
  extract_lets reaction
  have hreact : reaction = reactionOf s.reactions cb := rfl
  clear_value reaction
  -- a reaction that releases nothing leaves the journalled run as the only change so far
  have hrun : (∀ k, reaction ≠ .release k) → Tracks s s₁ [(cb, cmd.name, args)] :=
    fun hk => Tracks.of_run hp hpush (hreact ▸ hk)
  -- the run is journalled; its reaction decides what follows
  cases reaction with
  | accept | fail _ | crash _ => exact ⟨[], (hrun (by simp)).bind_quiet hrest, by simp⟩
  | release k =>
    exact ⟨[], (Tracks.of_release hp hpush hreact.symm).bind_quiet fun _ => hrest _, by simp⟩
  | register es =>
    exact ⟨[], ((hrun (by simp)).trans_nil (register_tracks hp₁ es)).bind_quiet
      fun _ => (hnote _ fun _ => by rfl).bind fun _ => hrest _, by simp⟩
  | notify bytes =>
    cases nest with
    | none => exact ⟨[], (hrun (by simp)).bind_quiet hrest, by simp⟩
    | some go =>
      obtain ⟨new, hnew⟩ := hnest go rfl bytes s₁ hp₁
      exact ⟨new, ((hrun (by simp)).trans hnew).bind_quiet
        fun _ => (hnote _ fun _ => by rfl).bind fun _ => hrest _, fun _ => ⟨bytes, hreact.symm⟩⟩

theorem tracked_invoke {nest : Option (List UInt8 → DispatchM (Except DispatchError Unit))}
    (hnest : ∀ go ∈ nest, ∀ bytes, Tracked (go bytes)) (cmd : Command) (args : List Value)
    (cb : String) : Tracked (invoke nest cmd args cb) := fun _ hp =>
  let ⟨_, h, _⟩ := invoke_tracks hnest cmd args cb hp
  ⟨_, h⟩

/-! ## The turns of the observers -/

/-- The runs a notification of command `name` with arguments `args` makes as
it gives the observers `os` their turns, `done` being the runs it made
before: an observer whose binding a run before its turn asked to release is
skipped; any other runs its callback once, and only a callback that notifies
a nested frame is followed by further runs, those of the nested
notification, before the next turn. -/
inductive Turns (reactions : List (String × Reaction)) (name : String) (args : List Value) :
    List Call → List Observer → List Call → Prop
  | nil (done : List Call) : Turns reactions name args done [] []
  | skip {done : List Call} {o : Observer} {os : List Observer} {rest : List Call}
      (released : Asks reactions done o.binding) (tail : Turns reactions name args done os rest) :
      Turns reactions name args done (o :: os) rest
  | run {done : List Call} {o : Observer} {os : List Observer} {nested rest : List Call}
      (live : ¬ Asks reactions done o.binding)
      (nests : nested ≠ [] → ∃ bytes, reactionOf reactions o.callback = .notify bytes)
      (tail : Turns reactions name args (done ++ (o.callback, name, args) :: nested) os rest) :
      Turns reactions name args done (o :: os) ((o.callback, name, args) :: nested ++ rest)

/-- What the turn of observer `o` does in a notification of `name` with
`args`: it goes on to the next turn; it changes nothing when the observer's
binding is released, and otherwise runs the observer's callback once. -/
structure TakesTurn (name : String) (args : List Value) (o : Observer)
    (x : DispatchM (ForInStep PUnit)) : Prop where
  next : ∀ s, (x.run s).1 = .yield ⟨⟩
  skips : ∀ s, s.isReleased o.binding = true → (x.run s).2 = s
  runs : ∀ s, s.pending = [] → s.isReleased o.binding = false →
    ∃ nested, Tracks s (x.run s).2 ((o.callback, name, args) :: nested) ∧
      (nested ≠ [] → ∃ bytes, reactionOf s.reactions o.callback = .notify bytes)

/-- The turns of the observers `os`, each taken as `TakesTurn` says, from a
registry that `Tracks` relates to the one where the notification began. The
induction is on the observers; a binding is released at its turn exactly when
a run before asked for it, since it was live when the notification began. -/
theorem forIn_turns {name : String} {args : List Value} {os : List Observer}
    {F : Observer → PUnit → DispatchM (ForInStep PUnit)} {s₀ s : Registry} {q : PUnit × Registry}
    (hq : (forIn os ⟨⟩ F).run s = q) (hF : ∀ o ∈ os, TakesTurn name args o (F o ⟨⟩))
    {done : List Call} (h : Tracks s₀ s done)
    (hos : ∀ o ∈ os, o.binding < s₀.bindings.size ∧ s₀.isReleased o.binding = false) :
    ∃ rest, Tracks s₀ q.2 (done ++ rest) ∧ Turns s₀.reactions name args done os rest := by
  subst hq
  induction os generalizing s done with
  | nil => exact ⟨[], by simpa using h, .nil done⟩
  | cons o os ih =>
    have hturn := hF o List.mem_cons_self
    have hlive := hos o List.mem_cons_self
    have hF' : ∀ o' ∈ os, TakesTurn name args o' (F o' ⟨⟩) :=
      fun o' ho' => hF o' (List.mem_cons_of_mem o ho')
    have hos' := fun o' ho' => hos o' (List.mem_cons_of_mem o ho')
    have hrel : s.isReleased o.binding = true ↔ Asks s₀.reactions done o.binding := by
      simp [h.released_iff _ hlive.1, hlive.2]
    have hnext := hturn.next s
    rw [List.forIn_cons, run_bind]
    by_cases hasks : Asks s₀.reactions done o.binding
    · -- skipped: the turn leaves the registry as it was
      have hskip := hturn.skips s (hrel.2 hasks)
      generalize (F o ⟨⟩).run s = p at hnext hskip ⊢
      obtain ⟨step, s'⟩ := p
      simp only at hnext hskip
      subst hnext hskip
      obtain ⟨rest, hrest, hturns⟩ := ih hF' h hos'
      exact ⟨rest, hrest, .skip hasks hturns⟩
    · -- run: the callback and any nested notification come before the next turn
      obtain ⟨nested, hrun, hnest⟩ :=
        hturn.runs s h.pending_eq (Bool.eq_false_iff.2 (mt hrel.1 hasks))
      generalize (F o ⟨⟩).run s = p at hnext hrun ⊢
      obtain ⟨step, s'⟩ := p
      simp only at hnext hrun
      subst hnext
      obtain ⟨rest, hrest, hturns⟩ := ih hF' (h.trans hrun) hos'
      exact ⟨_, by simpa using hrest, .run hasks (h.reactions_eq ▸ hnest) hturns⟩

/-! ## Delivering a frame -/

theorem tracked_deliver {nest : Option (List UInt8 → DispatchM (Except DispatchError Unit))}
    (hnest : ∀ go ∈ nest, ∀ bytes, Tracked (go bytes)) (f : Frame) : Tracked (deliver nest f) := by
  refine tracked_drain.bind fun _ => .get_bind fun r => ?_
  extract_lets obs
  split
  · exact (QuietOp.pure _).tracked
  · split
    · exact ((quiet_log _ _ _).bind fun _ => .pure _).tracked
    · split
      · exact ((quiet_count _).bind fun _ => (quiet_log _ _ _).bind fun _ => .pure _).tracked
      · refine (quiet_count _).tracked.bind fun _ => (quiet_reportMultisets _ _).tracked.bind
          fun _ => (Tracked.forIn fun o _ _ => .get_bind fun s => ?_).bind
          fun _ => ((quiet_count _).bind fun _ => .pure _).tracked
        split
        · exact (tracked_invoke hnest _ _ _).bind fun _ => (QuietOp.pure _).tracked
        · exact (QuietOp.pure _).tracked

theorem notifyAt_eq_deliver : ∀ (depth : Nat) (f : Frame),
    ∃ nest, (∀ go ∈ nest, ∀ bytes, Tracked (go bytes)) ∧ notifyAt depth f = deliver nest f
  | 0, _ => ⟨none, (fun _ h => by cases h), rfl⟩
  | depth + 1, _ => by
    refine ⟨_, fun go h bytes => ?_, rfl⟩
    cases h
    dsimp only
    split
    · exact (QuietOp.pure _).tracked
    · obtain ⟨nest, hnest, heq⟩ := notifyAt_eq_deliver depth _
      rw [heq]
      exact tracked_deliver hnest _

theorem deliver_run_drain (nest : Option (List UInt8 → DispatchM (Except DispatchError Unit)))
    (f : Frame) (s : Registry) : (deliver nest f).run s = (deliver nest f).run (drain.run s).2 := by
  conv_rhs => rw [deliver, run_bind, drain_of_pending_nil pending_drain]
  rw [deliver, run_bind]

/-- `r'` is `r` with other records and metrics and nothing else changed: no
callback ran, and the observers and bindings are as they were. -/
def OnlyReports (r r' : Registry) : Prop :=
  r' = { r with journal.records := r'.journal.records, journal.metrics := r'.journal.metrics }

/-- What notifying frame `f` does from `r`, a registry whose dropped bindings
are released, answering `res` and leaving `r'`. The observers are those of the
frame's identity in `r`: with none, nothing happens, whatever the payload;
when the identity is missing from the table or the payload does not decode,
the frame is reported undelivered with the cause and only records and metrics
change; otherwise every observer takes its turn with the arguments decoded
once, and the notification succeeds whatever the callbacks do. -/
structure Delivers (r : Registry) (f : Frame) (res : Except DispatchError Unit) (r' : Registry) :
    Prop where
  unobserved : r.observersOf f.id = [] → res = .ok () ∧ r' = r
  unknown : r.observersOf f.id ≠ [] → r.table.findByIdentity? f.id = none →
    res = .error (.undelivered f.id "" .unknownCommand) ∧ OnlyReports r r'
  undecodable : ∀ cmd e, r.observersOf f.id ≠ [] → r.table.findByIdentity? f.id = some cmd →
    r.codec.decode r.table.declarations cmd f = .error e →
    res = .error (.undelivered f.id cmd.name e) ∧ OnlyReports r r'
  delivered : ∀ cmd args, r.observersOf f.id ≠ [] → r.table.findByIdentity? f.id = some cmd →
    r.codec.decode r.table.declarations cmd f = .ok args →
    res = .ok () ∧ ∃ runs, r'.calls = r.calls ++ runs ∧
      Turns r.reactions cmd.name args [] (r.observersOf f.id) runs

theorem Consistent.live_of_mem {r : Registry} {id : Identity} {o : Observer} (h : r.Consistent)
    (ho : o ∈ r.observersOf id) : o.binding < r.bindings.size ∧ r.isReleased o.binding = false := by
  obtain ⟨b, hb, hrel, -⟩ := covers_iff.1 ((h.mem_iff).1 (List.mem_map_of_mem ho))
  exact ⟨(Array.getElem?_eq_some_iff.1 hb).1, by simp [isReleased, hb, hrel]⟩

/-- A delivery from a consistent registry with nothing pending, whatever the
nested notifications do as long as they are tracked. -/
theorem Consistent.deliver_delivers {nest : Option (List UInt8 → DispatchM (Except DispatchError Unit))}
    (hnest : ∀ go ∈ nest, ∀ bytes, Tracked (go bytes)) (f : Frame) {r : Registry}
    (hr : r.Consistent) (hp : r.pending = []) :
    Delivers r f ((deliver nest f).run r).1 ((deliver nest f).run r).2 := by
  unfold deliver
  simp only [run_bind, drain_of_pending_nil hp, run_get]
  refine ⟨fun hnil => ?_, fun hne hcmd => ?_, fun cmd e hne hcmd hdec => ?_,
    fun cmd args hne hcmd hdec => ?_⟩
  · simp only [hnil, List.isEmpty_nil, ↓reduceIte]
    exact ⟨rfl, rfl⟩
  · simp only [List.isEmpty_eq_false_iff.2 hne, hcmd, Bool.false_eq_true, ↓reduceIte]
    exact ⟨rfl, rfl⟩
  · simp only [List.isEmpty_eq_false_iff.2 hne, hcmd, hdec, Bool.false_eq_true, ↓reduceIte]
    exact ⟨rfl, rfl⟩
  · simp only [List.isEmpty_eq_false_iff.2 hne, hcmd, hdec, Bool.false_eq_true, ↓reduceIte,
      run_bind]
    -- metrics and reports come first and run nothing; then the turns
    generalize hs₁ :
      ((reportMultisets cmd args).run ((count fun x => x.decoded cmd.name).run r).2).2 = s₁
    have hq₁ : Quiet r s₁ := hs₁ ▸ (quiet_count _ r).trans (quiet_reportMultisets cmd args _)
    generalize hL : ((forIn (r.observersOf f.id) PUnit.unit _ : DispatchM PUnit).run s₁) = q
    have key := forIn_turns hL (fun o _ => (?_ : TakesTurn cmd.name args o _)) (hq₁.tracks hp)
      fun o ho => hr.live_of_mem ho
    · obtain ⟨runs, htr, hturns⟩ := key
      refine ⟨rfl, runs, ?_, hturns⟩
      simpa using (htr.quiet (quiet_count _ q.2)).calls_eq
    · -- a turn runs the callback exactly when the observer's binding is live
      refine ⟨fun s => ?_, fun s hs => ?_, fun s hps hs => ?_⟩
      · rw [run_bind, run_get]
        dsimp only
        split <;> rfl
      · rw [run_bind, run_get]
        simp [hs]
      · obtain ⟨nested, ht, hn⟩ := invoke_tracks hnest cmd args o.callback hps
        rw [run_bind, run_get]
        simp only [hs, Bool.not_false, ↓reduceIte]
        exact ⟨nested, ht, hn⟩

/-- Notifying a frame from any registry a run of requests reaches: once the
dropped bindings are released, the observers of the frame's identity are the
unreleased bindings covering it, in the order of their registration, and the
notification delivers the frame to them as `Delivers` says. -/
theorem notify_delivers (table : Table) (codec : CodecOptions)
    (reactions : List (String × Reaction)) (nesting : Nat) (journal : Journal) (rs : List Request)
    (f : Frame) :
    let s := ((serveAll rs).run { table, codec, reactions, nesting, journal }).2
    let r := (drain.run s).2
    (r.observersOf f.id).map (·.binding) = r.coveringBindings f.id ∧
      Delivers r f ((notify f).run s).1 ((notify f).run s).2 := by
  intro s r
  have hr : r.Consistent :=
    keeps_drain s (keeps_serveAll rs _ (consistent_new table codec reactions nesting journal))
  obtain ⟨nest, hnest, heq⟩ := notifyAt_eq_deliver s.nesting f
  rw [notify, run_bind, run_get, heq, deliver_run_drain]
  exact ⟨hr.observers_eq f.id, hr.deliver_delivers hnest f pending_drain⟩

end Registry

end DroneProtocol
