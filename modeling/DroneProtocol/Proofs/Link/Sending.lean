import DroneProtocol.Link.Interface

/-! # What sending a command captures and hands on

Each outbound operation is described by what it adds to the captured events,
the frames handed on and the status calls (`Emits`). Main statement:
`send_captures_once`. -/

namespace DroneProtocol

def Event.ofCommand (dir : Direction) (ev : CommandEvent) : Event :=
  { direction := dir, layer := .transport, category := .command, command := some ev }

/-- The event of a failure in a layer, with the command involved and what was
being done. -/
def Event.ofError (dir : Direction) (layer : Layer) (command context message : String) : Event :=
  { direction := dir, layer, category := .error, error := some { layer, message, command, context } }

def Event.ofStatus (cmd : Command) (st : SendStatus) (done : Bool) : Event :=
  { direction := .tx, layer := .transport, category := .sendStatus,
    status := some { id := cmd.identity, name := cmd.name, status := st.name, done } }

namespace Interface

section Run
variable {s : Interface} {α β : Type}

@[simp] theorem run_get : (get : LinkM Interface).run s = (s, s) := rfl

@[simp] theorem run_set (s' : Interface) : (set s' : LinkM PUnit).run s = (⟨⟩, s') := rfl

@[simp] theorem run_modify (f : Interface → Interface) :
    (modify f : LinkM Unit).run s = ((), f s) := rfl

@[simp] theorem run_pure (a : α) : (pure a : LinkM α).run s = (a, s) := rfl

theorem run_bind (x : LinkM α) (f : α → LinkM β) :
    (x >>= f).run s = (f (x.run s).1).run (x.run s).2 := rfl

end Run

/-- The events `s` captures of `es`: each stamped with the session and the
clock, or none when capturing is off. -/
def captures (s : Interface) (es : List Event) : List Event :=
  if s.capture then es.map fun e => { e with time := s.clock, session := s.session } else []

@[simp] theorem captures_nil (s : Interface) : s.captures [] = [] := by
  simp [captures]

theorem captures_append (s : Interface) (es es' : List Event) :
    s.captures (es ++ es') = s.captures es ++ s.captures es' := by
  by_cases h : s.capture <;> simp [captures, h]

/-- `s'` follows `s` having captured the events `es`, handed the frames `fs`
to the transport and made the status calls `cs`, with the settings that
decide capturing and status reporting unchanged. -/
structure Emits (s s' : Interface) (es : List Event) (fs : List (Frame × Delivery))
    (cs : List StatusCall) : Prop where
  events_eq : s'.events.toList = s.events.toList ++ s.captures es
  sent_eq : s'.sent.toList = s.sent.toList ++ fs
  statuses_eq : s'.statuses.toList = s.statuses.toList ++ cs
  capture_eq : s'.capture = s.capture
  clock_eq : s'.clock = s.clock
  session_eq : s'.session = s.session
  capturePayload_eq : s'.capturePayload = s.capturePayload
  fallback_eq : s'.fallback = s.fallback

section Emits
variable {s₁ s₂ s₃ : Interface} {es es' : List Event} {fs fs' : List (Frame × Delivery)}
  {cs cs' : List StatusCall}

theorem Emits.refl (s : Interface) : Emits s s [] [] [] :=
  ⟨by simp, by simp, by simp, rfl, rfl, rfl, rfl, rfl⟩

theorem Emits.trans (h₁ : Emits s₁ s₂ es fs cs) (h₂ : Emits s₂ s₃ es' fs' cs') :
    Emits s₁ s₃ (es ++ es') (fs ++ fs') (cs ++ cs') where
  events_eq := by
    have hcap : s₂.captures es' = s₁.captures es' := by
      simp [captures, h₁.capture_eq, h₁.clock_eq, h₁.session_eq]
    rw [h₂.events_eq, h₁.events_eq, hcap, captures_append, List.append_assoc]
  sent_eq := by rw [h₂.sent_eq, h₁.sent_eq, List.append_assoc]
  statuses_eq := by rw [h₂.statuses_eq, h₁.statuses_eq, List.append_assoc]
  capture_eq := h₂.capture_eq.trans h₁.capture_eq
  clock_eq := h₂.clock_eq.trans h₁.clock_eq
  session_eq := h₂.session_eq.trans h₁.session_eq
  capturePayload_eq := h₂.capturePayload_eq.trans h₁.capturePayload_eq
  fallback_eq := h₂.fallback_eq.trans h₁.fallback_eq

theorem Emits.of_eq {s s' : Interface} (he : s'.events = s.events) (hs : s'.sent = s.sent)
    (hc : s'.statuses = s.statuses) (hcap : s'.capture = s.capture) (hk : s'.clock = s.clock)
    (hn : s'.session = s.session) (hp : s'.capturePayload = s.capturePayload)
    (hf : s'.fallback = s.fallback) : Emits s s' [] [] [] :=
  ⟨by simp [he], by simp [hs], by simp [hc], hcap, hk, hn, hp, hf⟩

end Emits

/-! ## One lemma per operation -/

section Operations
variable (s : Interface)

/-- A registry operation touches only the registry. -/
theorem emits_onRegistry {α : Type} (x : DispatchM α) :
    Emits s ((onRegistry x).run s).2 [] [] [] :=
  .of_eq rfl rfl rfl rfl rfl rfl rfl rfl

theorem emits_push_event (hcap : s.capture = true) (e : Event) :
    Emits s { s with events := s.events.push { e with time := s.clock, session := s.session } }
      [e] [] [] :=
  ⟨by simp [captures, hcap], by simp, by simp, rfl, rfl, rfl, rfl, rfl⟩

theorem emits_push_status (c : StatusCall) :
    Emits s { s with statuses := s.statuses.push c } [] [] [c] :=
  ⟨by simp, by simp, by simp, rfl, rfl, rfl, rfl, rfl⟩

theorem emits_record (e : Event) : Emits s ((record e).run s).2 [e] [] [] := by
  unfold record
  rw [run_bind, run_get]
  dsimp only
  by_cases hcap : s.capture
  · rw [if_neg (by simp [hcap]), run_bind, run_set]
    -- echoing the event to the log touches only the registry
    split
    · simpa using (emits_push_event s hcap e).trans (emits_onRegistry _ _)
    · exact emits_push_event s hcap e
  · have hcap' : s.capture = false := by simpa using hcap
    simp only [hcap', Bool.not_false, ↓reduceIte, run_pure]
    exact ⟨by simp [captures, hcap'], by simp, by simp, rfl, rfl, rfl, rfl, rfl⟩

theorem emits_captureCommand (dir : Direction) (cmd : Option Command) (f : Frame) :
    ∃ text, Emits s ((captureCommand dir cmd f).run s).2
      [Event.ofCommand dir { CommandEvent.ofFrame f cmd s.capturePayload with text }] [] [] := by
  unfold captureCommand
  rw [run_bind, run_get]
  dsimp only
  split
  · exact ⟨_, emits_record s _⟩
  · exact ⟨[], emits_record s _⟩

theorem emits_captureError (dir : Direction) (layer : Layer) (command context message : String) :
    Emits s ((captureError dir layer command context message).run s).2
      [Event.ofError dir layer command context message] [] [] :=
  emits_record s _

/-- One status report: one status event, then one call of the status
function, if there is one. -/
theorem emits_track (cmd : Command) (target : Option StatusTarget) (st : SendStatus) (done : Bool) :
    Emits s ((track cmd target st done).run s).2 [Event.ofStatus cmd st done] []
      (target.map fun t => (⟨t, st, done⟩ : StatusCall)).toList := by
  unfold track
  rw [run_bind]
  generalize hp : (record _).run s = p
  have h₁ : Emits s p.2 [Event.ofStatus cmd st done] [] [] := hp ▸ emits_record s _
  obtain ⟨⟨⟩, s₁⟩ := p
  dsimp only
  -- a failed status is also logged, which touches only the registry
  obtain ⟨s₂, h₂, hlog⟩ : ∃ s₂, Emits s₁ s₂ [] [] [] ∧ ∀ x : LinkM Unit,
      ((if st.failed = true then onRegistry (Registry.log .warn "command not delivered"
        [("command", .text cmd.name), ("status", .text st.name)]) >>= fun _ => x
        else x).run s₁).2 = (x.run s₂).2 := by
    split
    · exact ⟨_, emits_onRegistry s₁ _, fun x => by rw [run_bind]⟩
    · exact ⟨s₁, Emits.refl s₁, fun x => rfl⟩
  rw [hlog]
  cases target with
  | none => exact h₁.trans h₂
  | some t => exact (h₁.trans h₂).trans (emits_push_status s₂ _)

theorem emits_push_sent (x : Frame × Delivery) :
    Emits s { s with sent := s.sent.push x } [] [x] [] :=
  ⟨by simp, by simp, by simp, rfl, rfl, rfl, rfl, rfl⟩

end Operations

/-! ## Handing a frame to the transport -/

/-- The status function that receives the reports of a command: its own if
it has one, else the default one if configured. -/
def statusTarget (own fallback : Bool) : Option StatusTarget :=
  if own then some .own else if fallback then some .fallback else none

theorem targetOf_run (own : Bool) (s : Interface) :
    (targetOf own).run s = (statusTarget own s.fallback, s) := by
  unfold targetOf statusTarget
  by_cases hown : own
  · simp only [hown, ↓reduceIte, run_pure]
  · by_cases hfb : s.fallback <;>
      simp only [hown, hfb, Bool.false_eq_true, ↓reduceIte, run_bind, run_get, run_pure]

/-- The calls of the status function `target` for the statuses `sts`: one per
status, with its arguments, and none without a function. -/
def statusCalls (target : Option StatusTarget) (sts : List (SendStatus × Bool)) :
    List StatusCall :=
  sts.flatMap fun p => (target.map fun t => (⟨t, p.1, p.2⟩ : StatusCall)).toList

/-- Reporting statuses one after the other, by induction on the statuses:
one status event, then one call, per status. -/
theorem emits_forIn_track (cmd : Command) (target : Option StatusTarget)
    {F : SendStatus × Bool → PUnit → LinkM (ForInStep PUnit)}
    (hF : ∀ st done, F (st, done) ⟨⟩ = (track cmd target st done >>= fun _ => pure (.yield ⟨⟩)))
    (sts : List (SendStatus × Bool)) (s : Interface) :
    Emits s ((forIn sts ⟨⟩ F).run s).2 (sts.map fun p => Event.ofStatus cmd p.1 p.2) []
      (statusCalls target sts) := by
  induction sts generalizing s with
  | nil => exact Emits.refl s
  | cons p sts ih =>
    obtain ⟨st, done⟩ := p
    rw [List.forIn_cons, run_bind, hF, run_bind]
    exact (emits_track s cmd target st done).trans (ih _)

/-- What handing the frame `f` of `cmd` to a transport that answers `reply`
does from `s`, answering `res` and leaving `s'`: the frame is captured once
and handed on once with the command's buffer class; a refusal is captured as
one transport failure and returned; otherwise every status reported gives one
status event and one call of the status function. -/
structure Transmits (s : Interface) (cmd : Command) (f : Frame) (own : Bool) (reply : Reply)
    (res : Except LinkError Unit) (s' : Interface) : Prop where
  rejected : ∀ reason, reply = .reject reason → res = .error (.rejected cmd.name reason) ∧
    ∃ text, Emits s s'
      [Event.ofCommand .tx { CommandEvent.ofFrame f (some cmd) s.capturePayload with text },
        Event.ofError .tx .transport cmd.name "send" reason] [(f, cmd.delivery)] []
  reported : ∀ sts, reply = .report sts → res = .ok () ∧
    ∃ text, Emits s s'
      (Event.ofCommand .tx { CommandEvent.ofFrame f (some cmd) s.capturePayload with text } ::
        sts.map fun p => Event.ofStatus cmd p.1 p.2) [(f, cmd.delivery)]
      (statusCalls (statusTarget own s.fallback) sts)

theorem Emits.transmits {s s₁ s' : Interface} {cmd : Command} {f : Frame} {own : Bool}
    {reply : Reply} {res : Except LinkError Unit} (h : Emits s s₁ [] [] [])
    (ht : Transmits s₁ cmd f own reply res s') : Transmits s cmd f own reply res s' where
  rejected reason hr := by
    obtain ⟨hres, text, he⟩ := ht.rejected reason hr
    rw [h.capturePayload_eq] at he
    exact ⟨hres, text, h.trans he⟩
  reported sts hr := by
    obtain ⟨hres, text, he⟩ := ht.reported sts hr
    rw [h.capturePayload_eq, h.fallback_eq] at he
    exact ⟨hres, text, h.trans he⟩

theorem transmit_spec (cmd : Command) (f : Frame) (own : Bool) (reply : Reply) (s : Interface) :
    Transmits s cmd f own reply ((transmit cmd f own reply).run s).1
      ((transmit cmd f own reply).run s).2 := by
  unfold transmit
  rw [run_bind, targetOf_run]
  dsimp only
  rw [run_bind]
  obtain ⟨text, h₁⟩ := emits_captureCommand s .tx (some cmd) f
  generalize (captureCommand .tx (some cmd) f).run s = p at h₁ ⊢
  obtain ⟨⟨⟩, s₁⟩ := p
  rw [run_bind, run_modify]
  dsimp only
  have h₂ := emits_push_sent s₁ (f, cmd.delivery)
  generalize ({ s₁ with sent := s₁.sent.push (f, cmd.delivery) } : Interface) = s₂ at h₂ ⊢
  refine ⟨fun reason hr => ?_, fun sts hr => ?_⟩
  · -- the refusal is captured after the frame
    subst hr
    dsimp only
    rw [run_bind]
    exact ⟨rfl, text, h₁.trans (h₂.trans (emits_captureError s₂ _ _ _ _ _))⟩
  · -- each status is captured and passed on
    subst hr
    dsimp only
    rw [run_bind]
    generalize hL : ((forIn sts PUnit.unit _ : LinkM PUnit).run s₂) = q
    have h₃ : Emits s₂ q.2 (sts.map fun p => Event.ofStatus cmd p.1 p.2) []
        (statusCalls (statusTarget own s.fallback) sts) := by
      subst hL
      exact emits_forIn_track cmd _ (fun _ _ => rfl) sts s₂
    exact ⟨rfl, text, h₁.trans (h₂.trans h₃)⟩

/-! ## Sending a command or a frame -/

/-- What sending `cmd` with `args` does from `s`, answering `res` and leaving
`s'`: unless the table holds a command of that identity and name, nothing at
all; when the arguments do not encode, one codec failure is captured and the
encoding error returned, with nothing handed on; otherwise the frame is
transmitted. -/
structure Sends (s : Interface) (cmd : Command) (args : List Value) (own : Bool) (reply : Reply)
    (res : Except LinkError Unit) (s' : Interface) : Prop where
  unknown : (∀ known, s.registry.table.findByIdentity? cmd.identity = some known →
      known.name ≠ cmd.name) → res = .error (.unknownCommand cmd.name) ∧ s' = s
  unencodable : ∀ known e, s.registry.table.findByIdentity? cmd.identity = some known →
    known.name = cmd.name → s.registry.codec.encode cmd args = .error e →
    res = .error (.wire e) ∧ Emits s s' [Event.ofError .tx .codec cmd.name "encode" e.message] [] []
  encoded : ∀ known f, s.registry.table.findByIdentity? cmd.identity = some known →
    known.name = cmd.name → s.registry.codec.encode cmd args = .ok f →
    Transmits s cmd f own reply res s'

/-- What sending the encoded frame `f` does from `s`: nothing at all unless
the table knows its identity, else the frame is transmitted as the command of
that identity. -/
structure SendsFrame (s : Interface) (f : Frame) (own : Bool) (reply : Reply)
    (res : Except LinkError Unit) (s' : Interface) : Prop where
  unknown : s.registry.table.findByIdentity? f.id = none →
    res = .error (.unknownCommand f.id.text) ∧ s' = s
  known : ∀ cmd, s.registry.table.findByIdentity? f.id = some cmd → Transmits s cmd f own reply res s'

theorem send_spec (cmd : Command) (args : List Value) (own : Bool) (reply : Reply) (s : Interface) :
    Sends s cmd args own reply ((send cmd args own reply).run s).1
      ((send cmd args own reply).run s).2 := by
  unfold send
  rw [run_bind, run_get]
  dsimp only
  refine ⟨fun hname => ?_, fun known e hk hn he => ?_, fun known f hk hn he => ?_⟩
  · -- refused before anything happens
    cases hk : s.registry.table.findByIdentity? cmd.identity with
    | none => exact ⟨rfl, rfl⟩
    | some known =>
      have hne : (known.name != cmd.name) = true := by simpa using hname known hk
      simp only [hne, ↓reduceIte]
      exact ⟨rfl, rfl⟩
  · have hne : (known.name != cmd.name) = false := by simpa using hn
    simp only [hk, hne, he, Bool.false_eq_true, ↓reduceIte, run_bind]
    exact ⟨rfl, (emits_onRegistry s _).trans (emits_captureError _ _ _ _ _ _)⟩
  · have hne : (known.name != cmd.name) = false := by simpa using hn
    simp only [hk, hne, he, Bool.false_eq_true, ↓reduceIte, run_bind]
    exact (emits_onRegistry s _).transmits (transmit_spec cmd f own reply _)

theorem sendFrame_spec (f : Frame) (own : Bool) (reply : Reply) (s : Interface) :
    SendsFrame s f own reply ((sendFrame f own reply).run s).1 ((sendFrame f own reply).run s).2 := by
  unfold sendFrame
  rw [run_bind, run_get]
  dsimp only
  refine ⟨fun hk => ?_, fun cmd hk => ?_⟩
  · simp only [hk]
    exact ⟨rfl, rfl⟩
  · simp only [hk]
    exact transmit_spec cmd f own reply s

/-- Each outbound operation of the interface, whatever the table, the codec,
the capture settings, the default status function and the transport's
answer: a command the table does not hold, by identity and name, or a frame
of an identity it lacks, is refused with nothing captured or handed on; a
command whose arguments do not encode is refused with exactly one codec
failure captured and nothing handed on; any other frame is captured once and
handed to the transport once with its command's buffer class, after which a
refusal is captured once and returned, and each reported status gives
exactly one status event and one call, with the same status and flag, of the
command's status function or the default one. -/
theorem send_captures_once (s : Interface) (own : Bool) (reply : Reply) :
    (∀ cmd args, Sends s cmd args own reply ((send cmd args own reply).run s).1
      ((send cmd args own reply).run s).2) ∧
    ∀ f, SendsFrame s f own reply ((sendFrame f own reply).run s).1
      ((sendFrame f own reply).run s).2 :=
  ⟨fun cmd args => send_spec cmd args own reply s, fun f => sendFrame_spec f own reply s⟩

end Interface

end DroneProtocol
