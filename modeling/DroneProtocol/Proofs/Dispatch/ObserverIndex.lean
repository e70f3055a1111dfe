import Mathlib
import DroneProtocol.Dispatch.Registry
import DroneProtocol.Proofs.Descriptor.Reachable

/-! # The observer index of a registry

Observers are kept per binding and per identity, and the two agree
(`Registry.Consistent`). One lemma per primitive update keeps the invariant,
and the invariant gives the registry's counts. -/

namespace DroneProtocol

namespace Registry

section Run
variable {r : Registry} {α β : Type}

@[simp] theorem run_get : (get : DispatchM Registry).run r = (r, r) := rfl

@[simp] theorem run_set (r' : Registry) : (set r' : DispatchM PUnit).run r = (⟨⟩, r') := rfl

@[simp] theorem run_modify (f : Registry → Registry) :
    (modify f : DispatchM Unit).run r = ((), f r) := rfl

@[simp] theorem run_pure (a : α) : (pure a : DispatchM α).run r = (a, r) := rfl

theorem run_bind (x : DispatchM α) (f : α → DispatchM β) :
    (x >>= f).run r = (f (x.run r).1).run (x.run r).2 := rfl

end Run

/-- Whether binding `k` is unreleased and covers `id`. -/
def covers (r : Registry) (k : Nat) (id : Identity) : Bool :=
  r.bindings[k]?.any fun b => !b.released && b.ids.contains id

/-- The unreleased bindings covering an identity, by number: the order of
their registration. -/
def coveringBindings (r : Registry) (id : Identity) : List Nat :=
  (List.range r.bindings.size).filter (r.covers · id)

def setBinding (r : Registry) (k : Nat) (b : Binding) : Registry :=
  { r with bindings := r.bindings.set! k b }

def liveIdentities (r : Registry) : List Identity :=
  ((r.bindings.toList.filter (!·.released)).flatMap (·.ids)).dedup

section Covers
variable {r : Registry} {j k : Nat} {id : Identity} {b : Binding}

theorem covers_eq_false_of_le (h : r.bindings.size ≤ k) : r.covers k id = false := by
  simp [covers, Array.getElem?_eq_none h]

theorem covers_setBinding (hk : k < r.bindings.size) :
    (r.setBinding k b).covers j id =
      if j = k then !b.released && b.ids.contains id else r.covers j id := by
  by_cases hj : j = k
  · subst hj; simp [covers, setBinding, hk]
  · simp [covers, setBinding, hj, Ne.symm hj]

@[simp] theorem size_setBinding : (r.setBinding k b).bindings.size = r.bindings.size := by
  simp [setBinding]

theorem covers_push :
    ({ r with bindings := r.bindings.push b } : Registry).covers j id =
      if j = r.bindings.size then !b.released && b.ids.contains id else r.covers j id := by
  by_cases hj : j = r.bindings.size
  · subst hj; simp [covers]
  · simp [covers, Array.getElem?_push, hj]

theorem coveringBindings_of_size (hs : r.bindings.size = k + 1) :
    r.coveringBindings id =
      (List.range k).filter (r.covers · id) ++ if r.covers k id then [k] else [] := by
  rw [coveringBindings, hs, List.range_succ, List.filter_append]
  split <;> simp [*]

end Covers

section Counting
variable {r : Registry} {id : Identity} {k : Nat}

theorem covers_iff :
    r.covers k id ↔ ∃ b, r.bindings[k]? = some b ∧ b.released = false ∧ id ∈ b.ids := by
  cases hb : r.bindings[k]? <;> simp [covers, hb]

theorem mem_liveIdentities : id ∈ r.liveIdentities ↔ ∃ k, r.covers k id := by
  simp only [liveIdentities, List.mem_dedup, List.mem_flatMap, List.mem_filter,
    Array.mem_toList_iff,
    Bool.not_eq_eq_eq_not, Bool.not_true, covers_iff, Array.mem_iff_getElem?]
  grind

theorem length_filter_range_getElem? {α : Type} (l : List α) (p : α → Bool) :
    ((List.range l.length).filter fun k => l[k]?.any p).length = l.countP p := by
  induction l with
  | nil => simp
  | cons a l ih =>
    rw [List.length_cons, List.range_succ_eq_map, List.filter_cons, List.filter_map,
      List.countP_cons]
    simp only [Function.comp_def, List.getElem?_cons_succ, List.getElem?_cons_zero, Option.any_some]
    split <;> simp [ih]

theorem length_coveringBindings :
    (r.coveringBindings id).length =
      r.bindings.countP fun b => !b.released && b.ids.contains id := by
  rw [← Array.countP_toList, ← length_filter_range_getElem?]
  simp only [coveringBindings, covers, Array.getElem?_toList, Array.length_toList]

end Counting

section Entries
variable {r : Registry} {id id' : Identity} {l : List (Identity × List Observer)}
  {v : List Observer}

theorem find?_map_entry :
    (l.map fun p => if p.1 == id then (id, v) else p).find? (·.1 == id') =
      if id' = id then (l.find? (·.1 == id)).map fun _ => (id, v) else l.find? (·.1 == id') := by
  induction l with
  | nil => simp
  | cons p l ih => by_cases hp : p.1 = id <;> by_cases hi : id' = id <;> grind

theorem find?_setEntry :
    (if l.any (·.1 == id) then l.map (fun p => if p.1 == id then (id, v) else p)
      else l ++ [(id, v)]).find? (·.1 == id') =
      if id' = id then some (id, v) else l.find? (·.1 == id') := by
  split
  · rename_i hany
    rw [find?_map_entry]
    split
    · obtain ⟨p, hp, hpid⟩ := List.any_eq_true.mp hany
      cases hq : l.find? (·.1 == id) with
      | none => exact absurd hpid (by simpa using List.find?_eq_none.mp hq p hp)
      | some q => rfl
    · rfl
  · rename_i hany
    have hnone : l.find? (·.1 == id) = none := List.find?_eq_none.mpr fun p hp hpid =>
      hany (List.any_eq_true.mpr ⟨p, hp, hpid⟩)
    split
    · subst id'; simp [List.find?_append, hnone]
    · simp [List.find?_append, Ne.symm ‹id' ≠ id›]

theorem keys_setEntry :
    (if l.any (·.1 == id) then l.map (fun p => if p.1 == id then (id, v) else p)
      else l ++ [(id, v)]).map (·.1) =
      if id ∈ l.map (·.1) then l.map (·.1) else l.map (·.1) ++ [id] := by
  by_cases hid : id ∈ l.map (·.1)
  · have hany : l.any (·.1 == id) := by simpa using hid
    simp only [hany, if_true, hid, List.map_map]
    refine List.map_congr_left fun p _ => ?_
    simp only [Function.comp]
    split <;> simp_all
  · have hany : l.any (·.1 == id) = false :=
      List.any_eq_false.mpr fun p hp h => hid (List.mem_map.mpr ⟨p, hp, by simpa using h⟩)
    simp [hany, hid]

theorem mem_setEntry {p : Identity × List Observer}
    (hp : p ∈ if l.any (·.1 == id) then l.map (fun p => if p.1 == id then (id, v) else p)
      else l ++ [(id, v)]) : p ∈ l ∨ p = (id, v) := by
  split at hp
  · obtain ⟨q, hq, rfl⟩ := List.mem_map.mp hp
    split
    · exact .inr rfl
    · exact .inl hq
  · simpa using hp

theorem keys_filterMap_sublist {l : List (Identity × List Observer)}
    {F : Identity × List Observer → Option (Identity × List Observer)}
    (hF : ∀ p q, F p = some q → q.1 = p.1) :
    ((l.filterMap F).map (·.1)).Sublist (l.map (·.1)) := by
  induction l with
  | nil => simp
  | cons p l ih =>
    rw [List.filterMap_cons]
    cases hp : F p with
    | none => exact ih.cons _
    | some q => simpa [hF p q hp] using ih

theorem find?_filterMap_of_key {l : List (Identity × List Observer)}
    {F : Identity × List Observer → Option (Identity × List Observer)}
    (hF : ∀ p q, F p = some q → q.1 = p.1) (hn : (l.map (·.1)).Nodup) :
    (l.filterMap F).find? (·.1 == id) = (l.find? (·.1 == id)).bind F := by
  induction l with
  | nil => simp
  | cons p l ih =>
    simp only [List.map_cons, List.nodup_cons, List.mem_map] at hn
    obtain ⟨hp, hn⟩ := hn
    rw [List.filterMap_cons]
    cases hFp : F p with
    | none =>
      by_cases h : p.1 = id
      · -- `id` has no later entry, so both sides find nothing
        have hnone : l.find? (·.1 == id) = none :=
          List.find?_eq_none.mpr fun q hq hq' => hp ⟨q, hq, by simpa [h] using hq'⟩
        simp [h, hFp, ih hn, hnone]
      · simp [h, ih hn]
    | some q => by_cases h : p.1 = id <;> simp [h, hF p q hFp, hFp, ih hn]

theorem observersOf_eq_nil (h : id ∉ r.observers.map (·.1)) : r.observersOf id = [] := by
  simp only [observersOf, List.mem_map] at *
  rw [List.find?_eq_none.mpr (by simpa using fun p hp hp' => h ⟨p, hp, hp'⟩)]
  rfl

theorem find?_of_mem {l : List (Identity × List Observer)} {obs : List Observer}
    (hn : (l.map (·.1)).Nodup) (h : (id, obs) ∈ l) : l.find? (·.1 == id) = some (id, obs) :=
  (List.find?_key_eq_some hn).mpr ⟨h, rfl⟩

end Entries

section Insert
variable {r : Registry} {id id' : Identity} {k : Nat} {cb : String}

@[simp] theorem bindings_insert : ((insert id k cb).run r).2.bindings = r.bindings := rfl

@[simp] theorem covers_insert : ((insert id k cb).run r).2.covers = r.covers := rfl

theorem observersOf_insert_of_ne (h : id' ≠ id) :
    ((insert id k cb).run r).2.observersOf id' = r.observersOf id' := by
  simp only [insert, run_modify]
  split
  · simp only [observersOf, find?_map_entry, if_neg h]
  · simp [observersOf, List.find?_append, Ne.symm h]

theorem bindings_observersOf_insert :
    (((insert id k cb).run r).2.observersOf id).map (·.binding) =
      if k ∈ (r.observersOf id).map (·.binding) then (r.observersOf id).map (·.binding)
      else (r.observersOf id).map (·.binding) ++ [k] := by
  simp only [insert, run_modify]
  rw [observersOf, find?_setEntry, if_pos rfl]
  simp only [Option.map_some, Option.getD_some]
  split
  · rename_i hany
    have hk : k ∈ (r.observersOf id).map (·.binding) := by simpa using hany
    simp only [List.map_map, if_pos hk]
    -- a new callback for `k` keeps every observer's binding
    refine List.map_congr_left fun o _ => ?_
    simp only [Function.comp]
    split <;> rfl
  · rename_i hany
    have hk : k ∉ (r.observersOf id).map (·.binding) := by simpa using hany
    simp [hk]

theorem keys_insert : ((insert id k cb).run r).2.observers.map (·.1) =
    if id ∈ r.observers.map (·.1) then r.observers.map (·.1)
    else r.observers.map (·.1) ++ [id] :=
  keys_setEntry

theorem mem_insert {p : Identity × List Observer}
    (hp : p ∈ ((insert id k cb).run r).2.observers) :
    p ∈ r.observers ∨ p = (id, ((insert id k cb).run r).2.observersOf id) := by
  simp only [insert, run_modify] at hp ⊢
  rw [observersOf, find?_setEntry, if_pos rfl]
  exact mem_setEntry hp

end Insert

/-- The observer index agrees with the bindings: an identity has at most one
entry and never an empty one, its observers are those of the unreleased
bindings covering it, one each and in the order of registration, and a binding
covers each of its identities once. -/
structure Consistent (r : Registry) : Prop where
  keys_nodup : (r.observers.map (·.1)).Nodup
  ne_nil : ∀ p ∈ r.observers, p.2 ≠ []
  observers_eq : ∀ id, (r.observersOf id).map (·.binding) = r.coveringBindings id
  ids_nodup : ∀ (k : Nat) (b : Binding), r.bindings[k]? = some b → b.ids.Nodup

section Consistent
variable {r : Registry} {id : Identity} {k : Nat} {b : Binding}

theorem Consistent.mem_iff (h : r.Consistent) :
    k ∈ (r.observersOf id).map (·.binding) ↔ r.covers k id := by
  rw [h.observers_eq, coveringBindings, List.mem_filter, List.mem_range]
  constructor
  · exact And.right
  · intro hk
    refine ⟨Nat.lt_of_not_le fun hle => ?_, hk⟩
    simp [covers_eq_false_of_le hle] at hk

/-- A frame lemma: what only changes other fields keeps the index consistent. -/
theorem Consistent.of_index_eq {r' : Registry} (h : r.Consistent) (ho : r'.observers = r.observers)
    (hb : r'.bindings = r.bindings) : r'.Consistent where
  keys_nodup := ho ▸ h.keys_nodup
  ne_nil := ho ▸ h.ne_nil
  observers_eq id := by
    simpa [observersOf, coveringBindings, covers, ho, hb] using h.observers_eq id
  ids_nodup := hb ▸ h.ids_nodup

/-- Registering a binding starts from an empty one, which covers nothing. -/
theorem Consistent.push_empty (h : r.Consistent) :
    ({ r with bindings := r.bindings.push ⟨[], false⟩ } : Registry).Consistent where
  keys_nodup := h.keys_nodup
  ne_nil := h.ne_nil
  observers_eq id := by
    rw [coveringBindings_of_size (k := r.bindings.size) (by simp), covers_push, if_pos rfl,
      List.filter_congr fun j hj => by
        rw [covers_push, if_neg (Nat.ne_of_lt (List.mem_range.mp hj))]]
    exact (h.observers_eq id).trans (by simp [coveringBindings])
  ids_nodup j b hj := by
    rw [Array.getElem?_push] at hj
    split at hj
    · cases hj; exact List.nodup_nil
    · exact h.ids_nodup j b hj

@[simp] theorem observersOf_setBinding : (r.setBinding k b).observersOf = r.observersOf := rfl

theorem coveringBindings_setBinding_newest (hs : r.bindings.size = k + 1) :
    (r.setBinding k b).coveringBindings id =
      (List.range k).filter (r.covers · id) ++
        if !b.released && b.ids.contains id then [k] else [] := by
  have hk : k < r.bindings.size := by omega
  rw [coveringBindings_of_size (by simpa using hs), covers_setBinding hk, if_pos rfl,
    List.filter_congr fun j hj => by
      rw [covers_setBinding hk, if_neg (Nat.ne_of_lt (List.mem_range.mp hj))]]

theorem ids_nodup_setBinding {b' : Binding} (hb : b.ids.Nodup)
    (h : ∀ j (b' : Binding), j ≠ k → r.bindings[j]? = some b' → b'.ids.Nodup) {j : Nat}
    (hj : (r.setBinding k b).bindings[j]? = some b') : b'.ids.Nodup := by
  simp only [setBinding, Array.set!, Array.getElem?_setIfInBounds] at hj
  split at hj
  · split at hj
    · cases hj; exact hb
    · cases hj
  · exact h j b' (Ne.symm ‹_›) hj

/-- Inserting an identity into the newest binding, while it is being filled,
keeps the index consistent with that binding covering the identity too. -/
theorem Consistent.insert_newest {ids : List Identity} {cb : String}
    (hs : r.bindings.size = k + 1) (h : (r.setBinding k ⟨ids, false⟩).Consistent) :
    (((insert id k cb).run r).2.setBinding k
      ⟨if id ∈ ids then ids else ids ++ [id], false⟩).Consistent where
  keys_nodup := by
    show (((insert id k cb).run r).2.observers.map (·.1)).Nodup
    have hn : (r.observers.map (·.1)).Nodup := h.keys_nodup
    rw [keys_insert]
    split
    · exact hn
    · exact hn.append (List.nodup_singleton id) (List.disjoint_singleton.mpr ‹_›)
  ne_nil p hp := by
    rcases mem_insert hp with hp | rfl
    · exact h.ne_nil p hp
    · intro hnil
      have := congrArg (List.map (·.binding)) hnil
      rw [bindings_observersOf_insert] at this
      split at this <;> simp_all
  observers_eq id' := by
    have hs' : ((insert id k cb).run r).2.bindings.size = k + 1 := hs
    have hold := h.observers_eq id'
    rw [coveringBindings_setBinding_newest hs] at hold
    rw [coveringBindings_setBinding_newest hs', covers_insert, observersOf_setBinding]
    rw [observersOf_setBinding] at hold
    by_cases hid : id' = id
    · subst hid
      rw [bindings_observersOf_insert, hold]
      -- the earlier bindings all have numbers below `k`
      have hk : k ∉ (List.range k).filter (r.covers · id') := by simp
      by_cases hin : id' ∈ ids <;> simp [hin, hk]
    · have hmem : (id' ∈ if id ∈ ids then ids else ids ++ [id]) ↔ id' ∈ ids := by
        split <;> simp [hid]
      rw [observersOf_insert_of_ne hid, hold]
      simp [hmem]
  ids_nodup := by
    have hids : ids.Nodup := h.ids_nodup k ⟨ids, false⟩ (by simp [setBinding, hs])
    refine fun j b' hj => ids_nodup_setBinding ?_ (fun j b' hjk hb' => h.ids_nodup j b' ?_) hj
    · split
      · exact hids
      · exact hids.append (List.nodup_singleton id) (List.disjoint_singleton.mpr ‹_›)
    · simpa [setBinding, Array.getElem?_setIfInBounds, Ne.symm hjk] using hb'

/-- Closing the newest binding: one that covers nothing is released at once. -/
theorem Consistent.close_newest {ids : List Identity} (hs : r.bindings.size = k + 1)
    (h : (r.setBinding k ⟨ids, false⟩).Consistent) :
    (r.setBinding k ⟨ids, ids.isEmpty⟩).Consistent := by
  cases ids with
  | cons id ids => exact h
  | nil =>
    refine ⟨h.keys_nodup, h.ne_nil, fun id => ?_, fun j b' hj => ?_⟩
    · simpa [coveringBindings_setBinding_newest hs] using h.observers_eq id
    · refine ids_nodup_setBinding List.nodup_nil (fun j b' hjk hb' => h.ids_nodup j b' ?_) hj
      simpa [setBinding, Array.getElem?_setIfInBounds, Ne.symm hjk] using hb'

/-- `F` rewrites an entry of the index as releasing binding `k`, which covers
the identities of `b`, does: the binding's observers go, and so does an entry
left without observers. -/
def ReleasesEntry (b : Binding) (k : Nat)
    (F : Identity × List Observer → Option (Identity × List Observer)) : Prop :=
  ∀ id obs, F (id, obs) = if id ∈ b.ids then
    (if obs.filter (·.binding != k) = [] then none else some (id, obs.filter (·.binding != k)))
    else some (id, obs)

theorem ReleasesEntry.key {F : Identity × List Observer → Option (Identity × List Observer)}
    (hF : ReleasesEntry b k F) : ∀ p q, F p = some q → q.1 = p.1 := by
  rintro ⟨id', obs⟩ q hq
  rw [hF] at hq
  split at hq
  · split at hq <;> cases hq; rfl
  · cases hq; rfl

theorem observersOf_release {F : Identity × List Observer → Option (Identity × List Observer)}
    {r' : Registry} (hn : (r.observers.map (·.1)).Nodup) (hF : ReleasesEntry b k F)
    (ho : r'.observers = r.observers.filterMap F) :
    r'.observersOf id =
      if id ∈ b.ids then (r.observersOf id).filter (·.binding != k) else r.observersOf id := by
  simp only [observersOf, ho, find?_filterMap_of_key hF.key hn]
  cases hfind : r.observers.find? (·.1 == id) with
  | none => simp
  | some p =>
    obtain ⟨id', obs⟩ := p
    have hid : id' = id := by simpa using List.find?_some hfind
    subst hid
    rw [Option.bind_some, hF]
    split
    · split <;> simp_all
    · rfl

theorem covers_release {r' : Registry} (hb : r.bindings[k]? = some b)
    (hr : r'.bindings = r.bindings.set! k { b with released := true }) {j : Nat} :
    r'.covers j id = (j != k && r.covers j id) := by
  by_cases hj : j = k
  · subst hj; simp [covers, hr, (Array.getElem?_eq_some_iff.mp hb).1]
  · simp [covers, hr, Ne.symm hj, hj]

theorem Consistent.release {F : Identity × List Observer → Option (Identity × List Observer)}
    {r' : Registry} (h : r.Consistent) (hb : r.bindings[k]? = some b) (hF : ReleasesEntry b k F)
    (ho : r'.observers = r.observers.filterMap F)
    (hb' : r'.bindings = r.bindings.set! k { b with released := true }) : r'.Consistent where
  keys_nodup := ho ▸ h.keys_nodup.sublist (keys_filterMap_sublist hF.key)
  ne_nil p hp := by
    rw [ho] at hp
    obtain ⟨⟨id, obs⟩, hmem, hp⟩ := List.mem_filterMap.mp hp
    rw [hF] at hp
    split at hp
    · split at hp
      · cases hp
      · cases hp; assumption
    · cases hp; exact h.ne_nil _ hmem
  observers_eq id := by
    rw [observersOf_release h.keys_nodup hF ho, coveringBindings]
    simp only [covers_release hb hb', hb', Array.set!, Array.size_setIfInBounds]
    rw [← List.filter_filter, ← coveringBindings, ← h.observers_eq id]
    split
    · rw [List.filter_map]
      rfl
    · -- binding `k` does not cover `id`, so it is not among its observers
      refine (List.filter_eq_self.mpr fun j hj => ?_).symm
      have hk : r.covers j id := h.mem_iff.mp hj
      refine bne_iff_ne.mpr fun hjk => ?_
      subst hjk
      simp_all [covers]
  ids_nodup j b' hj := by
    simp only [hb', Array.set!, Array.getElem?_setIfInBounds] at hj
    split at hj
    · split at hj
      · cases hj; subst j; exact h.ids_nodup k b hb
      · cases hj
    · exact h.ids_nodup j b' hj

/-- Releasing a binding keeps the index consistent; releasing an unknown or a
released binding changes nothing. -/
theorem Consistent.releaseNow (h : r.Consistent) : ((releaseNow k).run r).2.Consistent := by
  simp only [Registry.releaseNow, run_bind, run_get]
  split
  · exact h
  · rename_i b hb
    split
    · exact h
    · refine h.release hb (fun id obs => ?_) rfl rfl
      by_cases hid : id ∈ b.ids
      · simp only [hid, List.contains_iff_mem, if_true]
        split <;> simp_all
      · simp [hid]

theorem Consistent.mem_keys_iff (h : r.Consistent) :
    id ∈ r.observers.map (·.1) ↔ ∃ k, r.covers k id := by
  constructor
  · intro hid
    obtain ⟨⟨id', obs⟩, hmem, rfl⟩ := List.mem_map.mp hid
    have hobs : r.observersOf id' = obs := by simp [observersOf, find?_of_mem h.keys_nodup hmem]
    obtain ⟨o, ho⟩ := List.exists_mem_of_ne_nil obs (h.ne_nil _ hmem)
    exact ⟨o.binding, h.mem_iff.mp (List.mem_map.mpr ⟨o, hobs ▸ ho, rfl⟩)⟩
  · rintro ⟨k, hk⟩
    by_contra hid
    simpa [observersOf_eq_nil hid] using h.mem_iff.mpr hk

/-- Each identity with an unreleased binding has one entry in the index. -/
theorem Consistent.length_observers (h : r.Consistent) :
    r.observers.length = r.liveIdentities.length := by
  have hperm : (r.observers.map (·.1)).Perm r.liveIdentities :=
    (List.perm_ext_iff_of_nodup h.keys_nodup (List.nodup_dedup _)).mpr fun _ =>
      h.mem_keys_iff.trans mem_liveIdentities.symm
  simpa using hperm.length_eq

/-- The observers of an identity are one per unreleased binding covering it. -/
theorem Consistent.length_observersOf (h : r.Consistent) :
    (r.observersOf id).length = r.bindings.countP fun b => !b.released && b.ids.contains id := by
  rw [← length_coveringBindings, ← h.observers_eq, List.length_map]

end Consistent

end Registry

end DroneProtocol
