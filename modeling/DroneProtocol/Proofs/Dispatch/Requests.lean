import DroneProtocol.Proofs.Dispatch.ObserverIndex

/-! # Every run keeps the observer index

One rule per way of composing operations (`KeepsConsistent`), and one lemma
per operation; a notification keeps the index to any nesting depth
(`keeps_notifyAt`). Main statement: `serveAll_consistent`. -/

namespace DroneProtocol

namespace Registry

/-- Running `x` from a consistent registry leaves a consistent one. -/
def KeepsConsistent {α : Type} (x : DispatchM α) : Prop :=
  ∀ r : Registry, r.Consistent → (x.run r).2.Consistent

section Keeps
variable {α β : Type}

theorem KeepsConsistent.pure (a : α) : KeepsConsistent (Pure.pure a : DispatchM α) := fun _ h => h

theorem KeepsConsistent.bind {x : DispatchM α} {f : α → DispatchM β} (hx : KeepsConsistent x)
    (hf : ∀ a, KeepsConsistent (f a)) : KeepsConsistent (x >>= f) :=
  fun r h => hf _ _ (hx r h)

theorem KeepsConsistent.get_bind {f : Registry → DispatchM β}
    (hf : ∀ s, KeepsConsistent (f s)) : KeepsConsistent (get >>= f) := fun r h => hf r r h

theorem KeepsConsistent.modify {f : Registry → Registry}
    (hf : ∀ r, (f r).observers = r.observers ∧ (f r).bindings = r.bindings) :
    KeepsConsistent (modify f) := fun r h => h.of_index_eq (hf r).1 (hf r).2

theorem forIn_inv {l : List α} {f : α → β → DispatchM (ForInStep β)}
    (I : β → Registry → Prop)
    (hf : ∀ a ∈ l, ∀ b r, I b r → I ((f a b).run r).1.value ((f a b).run r).2)
    {b : β} {r : Registry} (h : I b r) : I ((forIn l b f).run r).1 ((forIn l b f).run r).2 := by
  induction l generalizing b r with
  | nil => exact h
  | cons a l ih =>
    have ha := hf a List.mem_cons_self b r h
    rw [List.forIn_cons, run_bind]
    generalize (f a b).run r = p at ha ⊢
    obtain ⟨step, s⟩ := p
    cases step with
    | done b' => exact ha
    | yield b' => exact ih (fun a' ha' => hf a' (List.mem_cons_of_mem a ha')) ha

theorem KeepsConsistent.forIn {l : List α} {b : β} {f : α → β → DispatchM (ForInStep β)}
    (hf : ∀ a ∈ l, ∀ b, KeepsConsistent (f a b)) : KeepsConsistent (ForIn.forIn l b f) :=
  fun _ h => forIn_inv (fun _ r => r.Consistent) (fun a ha b r hr => hf a ha b r hr) h

theorem keeps_log (level : Level) (message : String) (attrs : List (String × AttrValue)) :
    KeepsConsistent (log level message attrs) := fun _ h => h.of_index_eq rfl rfl

theorem keeps_count (f : Metrics → Metrics) : KeepsConsistent (count f) :=
  fun _ h => h.of_index_eq rfl rfl

theorem keeps_releaseNow (k : Nat) : KeepsConsistent (releaseNow k) := fun _ h => h.releaseNow

theorem keeps_drain : KeepsConsistent drain := by
  intro r h
  simp only [drain, run_bind, run_get, run_set]
  refine KeepsConsistent.forIn (fun k _ _ => ?_) _ (h.of_index_eq rfl rfl)
  intro s hs
  simp only [run_bind, run_get]
  -- with or without a debug record, the pass releases the binding
  have hrelease : KeepsConsistent (do releaseNow k; Pure.pure (ForInStep.yield PUnit.unit)) :=
    (keeps_releaseNow k).bind fun _ => .pure _
  split
  · split
    · exact ((keeps_log _ _ _).bind fun _ => hrelease) s hs
    · exact hrelease s hs
  · exact hrelease s hs

/-- The registry while binding `k`, the newest, is being filled: consistent
once the binding covers `ids`. -/
structure Filling (r : Registry) (k : Nat) (ids : List Identity) : Prop where
  size_eq : r.bindings.size = k + 1
  consistent : (r.setBinding k ⟨ids, false⟩).Consistent

theorem Filling.insert {r : Registry} {k : Nat} {ids : List Identity} {id : Identity} {cb : String}
    (h : r.Filling k ids) :
    ((insert id k cb).run r).2.Filling k (if id ∈ ids then ids else ids ++ [id]) :=
  ⟨h.size_eq, h.consistent.insert_newest h.size_eq⟩

theorem setBinding_push_self {r : Registry} {b : Binding} :
    ({ r with bindings := r.bindings.push b } : Registry).setBinding r.bindings.size b =
      { r with bindings := r.bindings.push b } := by
  simp only [setBinding, Registry.mk.injEq, and_true, true_and, Array.set!]
  apply Array.ext_getElem?
  intro j
  simp only [Array.getElem?_setIfInBounds, Array.getElem?_push, Array.size_push]
  grind

theorem Filling.close {r : Registry} {k : Nat} {ids : List Identity} (h : r.Filling k ids) :
    (r.setBinding k ⟨ids, ids.isEmpty⟩).Consistent :=
  h.consistent.close_newest h.size_eq

theorem keeps_register (es : List Entry) : KeepsConsistent (register es) := by
  refine keeps_drain.bind fun _ r h => ?_
  simp only [run_bind, run_get, run_modify, run_pure]
  apply Filling.close
  apply forIn_inv (fun ids s => s.Filling r.bindings.size ids)
  · -- an entry with a callback and identities inserts each of them
    intro e _ ids s hs
    split
    next _ cb _ =>
      split
      · simp only [run_bind, run_pure]
        apply forIn_inv (fun ids s => s.Filling r.bindings.size ids) _ hs
        intro id _ ids s hs
        simp only [run_bind]
        have hins : ((insert id r.bindings.size cb).run s).2.Filling r.bindings.size
            (if id ∈ ids then ids else ids ++ [id]) := hs.insert
        split
        · rename_i hnew
          rw [if_neg (by simpa using hnew)] at hins
          exact hins
        · rename_i hold
          rw [if_pos (by simpa using hold)] at hins
          exact hins
      · exact hs
    · exact hs
  · exact ⟨by simp, by rw [setBinding_push_self]; exact h.push_empty⟩

theorem keeps_unobserve (k : Option Nat) : KeepsConsistent (unobserve k) :=
  keeps_drain.bind fun _ => by
    cases k with
    | none => exact .pure ()
    | some k => exact keeps_releaseNow k

theorem keeps_observed (id : Identity) : KeepsConsistent (observed id) :=
  keeps_drain.bind fun _ _ h => h

theorem keeps_size : KeepsConsistent size := keeps_drain.bind fun _ _ h => h

theorem keeps_enqueue (k : Nat) : KeepsConsistent (enqueue k) :=
  .modify fun _ => ⟨rfl, rfl⟩

theorem keeps_drop (k : Nat) : KeepsConsistent (drop k) :=
  .get_bind fun _ => (keeps_enqueue k).bind fun _ => keeps_drain.bind fun _ _ h => h

theorem keeps_reportMultisets (cmd : Command) (args : List Value) :
    KeepsConsistent (reportMultisets cmd args) := by
  refine (KeepsConsistent.forIn fun v _ _ => ?_).bind fun _ => .pure ()
  split
  · exact (keeps_count _).bind fun _ =>
      (KeepsConsistent.forIn fun _ _ _ => (keeps_log _ _ _).bind fun _ => .pure _).bind
        fun _ => .pure _
  · exact .pure _

/-- A callback keeps the index consistent when the nested notification it may
run does. -/
theorem keeps_invoke {nest : Option (List UInt8 → DispatchM (Except DispatchError Unit))}
    (hnest : ∀ go ∈ nest, ∀ bytes, KeepsConsistent (go bytes)) (cmd : Command)
    (args : List Value) (cb : String) : KeepsConsistent (invoke nest cmd args cb) := by
  unfold invoke
  refine KeepsConsistent.get_bind fun s => ?_
  extract_lets slot note jp
  refine KeepsConsistent.bind (.modify fun _ => ⟨rfl, rfl⟩) fun _ => .get_bind fun s' => ?_
  extract_lets reaction
  have hnote : ∀ f, KeepsConsistent (note f) := fun _ => .modify fun _ => ⟨rfl, rfl⟩
  have hjp : ∀ failure, KeepsConsistent (jp failure) := by
    intro failure
    refine (keeps_count _).bind fun _ => ?_
    split
    · exact (keeps_count _).bind fun _ => keeps_log _ _ _
    · exact .pure ()
  -- whatever the callback does to the registry keeps it consistent
  clear_value reaction
  cases reaction with
  | accept | fail _ | crash _ => exact KeepsConsistent.bind (.pure _) hjp
  | release k =>
    exact KeepsConsistent.bind (keeps_unobserve _) fun _ => KeepsConsistent.bind (.pure _) hjp
  | register es =>
    exact KeepsConsistent.bind (keeps_register es) fun _ => KeepsConsistent.bind (hnote _) fun _ =>
      KeepsConsistent.bind (.pure _) hjp
  | notify bytes =>
    cases nest with
    | none => exact KeepsConsistent.bind (.pure _) hjp
    | some go =>
      exact KeepsConsistent.bind (hnest go rfl bytes) fun _ =>
        KeepsConsistent.bind (hnote _) fun _ => KeepsConsistent.bind (.pure _) hjp

theorem keeps_deliver {nest : Option (List UInt8 → DispatchM (Except DispatchError Unit))}
    (hnest : ∀ go ∈ nest, ∀ bytes, KeepsConsistent (go bytes)) (f : Frame) :
    KeepsConsistent (deliver nest f) := by
  refine KeepsConsistent.bind keeps_drain fun _ => .get_bind fun r => ?_
  extract_lets obs
  split
  · exact .pure _
  · split
    · exact KeepsConsistent.bind (keeps_log _ _ _) fun _ => .pure _
    · split
      · exact KeepsConsistent.bind (keeps_count _) fun _ =>
          KeepsConsistent.bind (keeps_log _ _ _) fun _ => .pure _
      · refine KeepsConsistent.bind (keeps_count _) fun _ =>
          KeepsConsistent.bind (keeps_reportMultisets _ _) fun _ =>
          KeepsConsistent.bind (.forIn fun o _ _ => .get_bind fun s => ?_) fun _ =>
          KeepsConsistent.bind (keeps_count _) fun _ => .pure _
        split
        · exact KeepsConsistent.bind (keeps_invoke hnest _ _ _) fun _ => .pure _
        · exact .pure _

/-- Notifications, nested ones included, keep the index consistent. -/
theorem keeps_notifyAt : ∀ (depth : Nat) (f : Frame), KeepsConsistent (notifyAt depth f)
  | 0, f => keeps_deliver (fun _ h => by cases h) f
  | depth + 1, f => keeps_deliver (fun go h bytes => by
      cases h
      dsimp only
      split
      · exact .pure _
      · exact keeps_notifyAt depth _) f

theorem keeps_notify (f : Frame) : KeepsConsistent (notify f) :=
  .get_bind fun r => keeps_notifyAt r.nesting f

theorem keeps_notifyBytes (bytes : List UInt8) : KeepsConsistent (notifyBytes bytes) := by
  unfold notifyBytes
  split
  · exact .pure _
  · exact keeps_notify _

end Keeps

section Idempotence
variable {r : Registry} {k : Nat}

theorem pending_releaseNow : ((releaseNow k).run r).2.pending = r.pending := by
  simp only [Registry.releaseNow, run_bind, run_get]
  split
  · rfl
  · split <;> rfl

theorem pending_drain : (drain.run r).2.pending = [] := by
  simp only [drain, run_bind, run_get, run_set]
  refine forIn_inv (fun _ s => s.pending = []) (fun k _ _ s hs => ?_) rfl
  simp only [run_bind, run_get]
  split
  · split <;> (simp only [run_bind, run_pure, pending_releaseNow]; exact hs)
  · simp only [run_bind, run_pure, pending_releaseNow]
    exact hs

theorem drain_of_pending_nil (h : r.pending = []) : drain.run r = ((), r) := by
  simp only [drain, run_bind, run_get, run_set, h, List.forIn_nil, run_pure]
  cases r
  subst h
  rfl

theorem releaseNow_of_released (h : r.isReleased k) : (releaseNow k).run r = ((), r) := by
  simp only [Registry.releaseNow, run_bind, run_get]
  split
  · rfl
  · rename_i b hb
    have hrel : b.released = true := by simpa [isReleased, hb] using h
    simp only [hrel, if_true]
    rfl

theorem isReleased_releaseNow : ((releaseNow k).run r).2.isReleased k := by
  simp only [Registry.releaseNow, run_bind, run_get]
  split
  · rename_i hb
    simp only [run_pure]
    simp [isReleased, hb]
  · rename_i b hb
    split
    · simp only [run_pure]
      simp [isReleased, *]
    · simp only [run_set]
      simp [isReleased, (Array.getElem?_eq_some_iff.mp hb).1]

theorem releaseNow_releaseNow :
    (releaseNow k).run ((releaseNow k).run r).2 = ((), ((releaseNow k).run r).2) :=
  releaseNow_of_released isReleased_releaseNow

theorem unobserve_unobserve (k : Option Nat) (r : Registry) :
    (do unobserve k; unobserve k).run r = (unobserve k).run r := by
  cases k with
  | none =>
    simp only [unobserve, run_bind, run_pure]
    rw [drain_of_pending_nil pending_drain]
  | some k =>
    simp only [unobserve, run_bind]
    rw [drain_of_pending_nil (by rw [pending_releaseNow]; exact pending_drain)]
    exact releaseNow_releaseNow

end Idempotence

/-- A request to a registry: an operation of its interface, or the queueing
of a binding whose handle was dropped, which may happen between any two
operations. -/
inductive Request where
  | register (entries : List Entry)
  | unobserve (binding : Option Nat)
  | observed (id : Identity)
  | size
  | enqueue (binding : Nat)
  | drop (binding : Nat)
  | notify (frame : Frame)
  | notifyBytes (bytes : List UInt8)
  deriving Repr

def Request.serve : Request → DispatchM Unit
  | .register es => discard (Registry.register es)
  | .unobserve k => Registry.unobserve k
  | .observed id => discard (Registry.observed id)
  | .size => discard Registry.size
  | .enqueue k => Registry.enqueue k
  | .drop k => discard (Registry.drop k)
  | .notify f => discard (Registry.notify f)
  | .notifyBytes bytes => discard (Registry.notifyBytes bytes)

def serveAll (rs : List Request) : DispatchM Unit := rs.forM Request.serve

section Runs
variable {r : Registry}

theorem KeepsConsistent.discard {α : Type} {x : DispatchM α} (hx : KeepsConsistent x) :
    KeepsConsistent (discard x) := hx

theorem keeps_serve : ∀ q : Request, KeepsConsistent q.serve
  | .register es => (keeps_register es).discard
  | .unobserve k => keeps_unobserve k
  | .observed id => (keeps_observed id).discard
  | .size => keeps_size.discard
  | .enqueue k => keeps_enqueue k
  | .drop k => (keeps_drop k).discard
  | .notify f => (keeps_notify f).discard
  | .notifyBytes bytes => (keeps_notifyBytes bytes).discard

theorem keeps_serveAll : ∀ rs : List Request, KeepsConsistent (serveAll rs)
  | [] => fun _ h => h
  | q :: rs => (keeps_serve q).bind fun _ => keeps_serveAll rs

theorem consistent_new (table : Table) (codec : CodecOptions)
    (reactions : List (String × Reaction)) (nesting : Nat) (journal : Journal) :
    ({ table, codec, reactions, nesting, journal } : Registry).Consistent where
  keys_nodup := List.nodup_nil
  ne_nil _ h := nomatch h
  observers_eq _ := rfl
  ids_nodup _ _ h := by simp at h

theorem Consistent.observed_eq (h : r.Consistent) (id : Identity) :
    ((observed id).run r).1 =
      ((observed id).run r).2.bindings.countP fun b => !b.released && b.ids.contains id :=
  (keeps_drain r h).length_observersOf

theorem Consistent.size_eq (h : r.Consistent) :
    (size.run r).1 = (size.run r).2.liveIdentities.length :=
  (keeps_drain r h).length_observers

/-- Over every run of requests from a new registry the observer index stays
consistent with the bindings; there, an identity's number of observers is the
number of unreleased bindings covering it, the number of identities observed
is the number of identities such bindings cover, and unobserving, or
releasing, twice is doing it once. -/
theorem serveAll_consistent (table : Table) (codec : CodecOptions)
    (reactions : List (String × Reaction)) (nesting : Nat) (journal : Journal) (rs : List Request) :
    let r := ((serveAll rs).run { table, codec, reactions, nesting, journal }).2
    r.Consistent ∧
      (∀ id, ((observed id).run r).1 =
        ((observed id).run r).2.bindings.countP fun b => !b.released && b.ids.contains id) ∧
      (size.run r).1 = (size.run r).2.liveIdentities.length ∧
      ∀ (k : Option Nat) (s : Registry),
        (do unobserve k; unobserve k).run s = (unobserve k).run s := by
  intro r
  have h : r.Consistent := keeps_serveAll rs _ (consistent_new table codec reactions nesting journal)
  exact ⟨h, h.observed_eq, h.size_eq, unobserve_unobserve⟩

end Runs

end Registry

end DroneProtocol
