import Mathlib
import DroneProtocol.Codegen.Template
import DroneProtocol.Proofs.Wire.Reading
import DroneProtocol.Proofs.Descriptor.Reachable

/-! # The namer gives distinct identifiers

Each naming step is described once by `Namer.Reserves`, which is closed under
folds. Main statement: `nameAll_ok_iff`, the namer accepts exactly the schemas
whose identifiers (`schemaIdents`) are pairwise distinct. -/

namespace DroneProtocol.Codegen

open Schema

def enumIdents (fname prefix_ : String) (e : CompiledEnum) : List (String × String) :=
  let base := prefix_ ++ Naming.goName e.source.name
  let key := fname ++ "." ++ e.source.name
  (base ++ "Enum", key) ::
    e.source.values.map fun v => (base ++ Naming.goName v.name, key ++ "." ++ v.name)

/-- The identifiers of a feature's objects, in the order the namer gives them:
the feature, its enums, its commands, its multisets. -/
def featureIdents (s : Compiled) (f : CompiledFeature) : List (String × String) :=
  let prefix_ := Naming.goName f.source.name
  (prefix_ ++ "ID", f.source.name) :: (f.enums.flatMap (enumIdents f.source.name prefix_) ++
    (f.commands.flatMap (commandIdents prefix_) ++
      (featureMultisets s f).map fun m => (multisetIdent prefix_ m, m.source.name)))

/-- The identifiers of every object of a schema. -/
def schemaIdents (s : Compiled) : List (String × String) :=
  s.features.flatMap (featureIdents s)

theorem nodup_fst_of_append {a b : List (String × String)} (h : ((a ++ b).map Prod.fst).Nodup) :
    (a.map Prod.fst).Nodup := by
  rw [List.map_append] at h
  exact h.of_append_left

namespace Namer

/-- The namer has given exactly the identifiers of `l`, each to the object
`l` pairs it with, and no identifier twice. -/
structure Fresh (n : Namer) (l : List (String × String)) : Prop where
  gave : ∀ i, n.taken[i]? = l.lookup i
  nodup : (l.map Prod.fst).Nodup

/-- A naming step `g` gives `x` exactly the identifiers `ids x`: from a namer
that has given `l`, it succeeds exactly when `l ++ ids x` repeats no
identifier, and it fails only by a clash. -/
structure Reserves {α : Type} (g : Namer → α → Except GenError Namer)
    (ids : α → List (String × String)) : Prop where
  sound : ∀ {n n' : Namer} {l : List (String × String)} {x : α},
    n.Fresh l → g n x = .ok n' → n'.Fresh (l ++ ids x)
  complete : ∀ {n : Namer} {l : List (String × String)} {x : α},
    n.Fresh l → ((l ++ ids x).map Prod.fst).Nodup → ∃ n', g n x = .ok n'
  clash : ∀ {n : Namer} {x : α} {e : GenError}, g n x = .error e → e.kind? = some "errNameClash"

theorem fresh_empty : ({} : Namer).Fresh [] :=
  ⟨fun _ => Std.HashMap.getElem?_empty, List.nodup_nil⟩

theorem Fresh.with_maps {n : Namer} {l : List (String × String)} (h : n.Fresh l)
    (enums commands multisets : Std.HashMap String String) :
    ({ n with enums, commands, multisets } : Namer).Fresh l :=
  ⟨h.gave, h.nodup⟩

theorem take_eq_ok {n n' : Namer} {i o : String} :
    n.take i o = .ok n' ↔ n.taken[i]? = none ∧ n' = { n with taken := n.taken.insert i o } := by
  unfold take
  cases n.taken[i]? <;> simp [eq_comm]

theorem take_eq_error {n : Namer} {i o : String} {e : GenError} :
    n.take i o = .error e ↔ ∃ prev, n.taken[i]? = some prev ∧ e = .clash i prev o := by
  unfold take
  cases n.taken[i]? <;> simp [eq_comm]

/-- Taking a new identifier adds it to what the namer has given. -/
theorem Fresh.take {n n' : Namer} {l : List (String × String)} {i o : String} (h : n.Fresh l)
    (ht : n.take i o = .ok n') : n'.Fresh (l ++ [(i, o)]) := by
  obtain ⟨hnone, rfl⟩ := take_eq_ok.mp ht
  have hl : l.lookup i = none := (h.gave i).symm.trans hnone
  have hi : i ∉ l.map Prod.fst := lookup_eq_none_iff_not_mem_fst.mp hl
  constructor
  · intro j
    simp only [Std.HashMap.getElem?_insert, List.lookup_append, List.lookup_singleton]
    by_cases hij : i = j
    · subst hij
      simp [hl]
    · have hji : (j == i) = false := by simpa using Ne.symm hij
      simp [hij, hji, h.gave j]
  · rw [List.map_append, List.map_singleton, List.nodup_append]
    refine ⟨h.nodup, List.nodup_singleton i, fun a ha b hb hab => ?_⟩
    rw [List.mem_singleton] at hb
    rw [hab, hb] at ha
    exact hi ha

/-- Taking an identifier the namer has not given succeeds. -/
theorem Fresh.take_ok {n : Namer} {l : List (String × String)} {i o : String} (h : n.Fresh l)
    (hnd : ((l ++ [(i, o)]).map Prod.fst).Nodup) : ∃ n', n.take i o = .ok n' := by
  rw [List.map_append, List.map_singleton, List.nodup_append] at hnd
  have hi : i ∉ l.map Prod.fst := fun hi => hnd.2.2 i hi i (List.mem_singleton_self i) rfl
  exact ⟨_, take_eq_ok.mpr ⟨(h.gave i).trans (lookup_eq_none_iff_not_mem_fst.mpr hi), rfl⟩⟩

theorem take_clash {n : Namer} {i o : String} {e : GenError} (ht : n.take i o = .error e) :
    e.kind? = some "errNameClash" := by
  obtain ⟨prev, -, rfl⟩ := take_eq_error.mp ht
  rfl

theorem reserves_take :
    Reserves (fun (n : Namer) (p : String × String) => n.take p.1 p.2) fun p => [p] :=
  ⟨fun h ht => h.take ht, fun h hnd => h.take_ok hnd, fun ht => take_clash ht⟩

/-- A step that gives identifiers to each element of a list in turn gives the
identifiers of all of them. -/
theorem Reserves.foldlM {α : Type} {g : Namer → α → Except GenError Namer}
    {ids : α → List (String × String)} (h : Reserves g ids) :
    Reserves (fun n (xs : List α) => xs.foldlM g n) fun xs => xs.flatMap ids where
  sound {n n' l xs} hf hg :=
    foldlM_run_nil (I := fun p n => n.Fresh (l ++ p.flatMap ids))
      (fun hi hs => by simpa [List.append_assoc] using h.sound hi hs) (by simpa using hf) hg
  complete {n l xs} hf hnd := by
    induction xs generalizing n l with
    | nil => exact ⟨n, rfl⟩
    | cons x xs ih =>
      rw [List.flatMap_cons, ← List.append_assoc] at hnd
      obtain ⟨n₁, h₁⟩ := h.complete hf (nodup_fst_of_append hnd)
      obtain ⟨n', h'⟩ := ih (h.sound hf h₁) hnd
      exact ⟨n', by simp [List.foldlM_cons, h₁, h']⟩
  clash {n xs e} hg := by
    induction xs generalizing n with
    | nil => simp at hg
    | cons x xs ih =>
      rw [List.foldlM_cons] at hg
      cases h₁ : g n x with
      | error e' =>
        rw [h₁] at hg
        cases hg
        exact h.clash h₁
      | ok n₁ =>
        rw [h₁] at hg
        exact ih hg

theorem takeAll_eq (n : Namer) (l : List (String × String)) :
    n.takeAll l = l.foldlM (fun (n : Namer) (p : String × String) => n.take p.1 p.2) n := rfl

theorem reserves_takeAll : Reserves takeAll fun l => l := by
  have h := reserves_take.foldlM
  simp only [List.flatMap_singleton'] at h
  exact ⟨fun hf hg => h.sound hf ((takeAll_eq _ _).symm.trans hg),
    fun hf hnd => by simpa [takeAll_eq] using h.complete hf hnd,
    fun hg => h.clash ((takeAll_eq _ _).symm.trans hg)⟩

end Namer

section Steps

open Namer

variable {fname prefix_ : String} {s : Compiled}

theorem enumIdents_eq (e : CompiledEnum) :
    enumIdents fname prefix_ e = [(prefix_ ++ Naming.goName e.source.name ++ "Enum",
      fname ++ "." ++ e.source.name)] ++ e.source.values.map fun v =>
        (prefix_ ++ Naming.goName e.source.name ++ Naming.goName v.name,
          fname ++ "." ++ e.source.name ++ "." ++ v.name) := rfl

theorem reserves_nameEnum : Reserves (nameEnum fname prefix_) (enumIdents fname prefix_) where
  sound {n n' l e} hf hg := by
    obtain ⟨n₁, h₁, h₂⟩ := Except.bind_eq_ok.mp hg
    have hf₁ := (hf.take h₁).with_maps
      (n₁.enums.insert (fname ++ "." ++ e.source.name) (prefix_ ++ Naming.goName e.source.name ++ "Enum"))
      n₁.commands n₁.multisets
    rw [enumIdents_eq, ← List.append_assoc]
    exact reserves_takeAll.sound hf₁ h₂
  complete {n l e} hf hnd := by
    rw [enumIdents_eq, ← List.append_assoc] at hnd
    obtain ⟨n₁, h₁⟩ := hf.take_ok (nodup_fst_of_append hnd)
    have hf₁ := (hf.take h₁).with_maps
      (n₁.enums.insert (fname ++ "." ++ e.source.name) (prefix_ ++ Naming.goName e.source.name ++ "Enum"))
      n₁.commands n₁.multisets
    obtain ⟨n', h'⟩ := reserves_takeAll.complete hf₁ hnd
    exact ⟨n', by simp only [nameEnum, h₁, Except.ok_bind]; exact h'⟩
  clash {n e err} hg := by
    simp only [nameEnum] at hg
    cases h₁ : n.take (prefix_ ++ Naming.goName e.source.name ++ "Enum") (fname ++ "." ++ e.source.name) with
    | error e' =>
      rw [h₁] at hg
      cases hg
      exact take_clash h₁
    | ok n₁ =>
      rw [h₁] at hg
      exact reserves_takeAll.clash hg

theorem reserves_nameCommand : Reserves (nameCommand prefix_) (commandIdents prefix_) where
  sound {n n' l c} hf hg := by
    obtain ⟨n₁, h₁, h₂⟩ := Except.bind_eq_ok.mp hg
    simp only [Except.pure_eq_ok, Except.ok.injEq] at h₂
    subst h₂
    exact (reserves_takeAll.sound hf h₁).with_maps _ _ _
  complete {n l c} hf hnd := by
    obtain ⟨n₁, h₁⟩ := reserves_takeAll.complete hf hnd
    exact ⟨_, by simp only [nameCommand, h₁, Except.ok_bind]; rfl⟩
  clash {n c e} hg := by
    simp only [nameCommand] at hg
    cases h₁ : n.takeAll (commandIdents prefix_ c) with
    | error e' =>
      rw [h₁] at hg
      cases hg
      exact reserves_takeAll.clash h₁
    | ok n₁ =>
      rw [h₁] at hg
      cases hg

theorem reserves_nameMultiset :
    Reserves (nameMultiset prefix_) fun m => [(multisetIdent prefix_ m, m.source.name)] where
  sound {n n' l m} hf hg := by
    obtain ⟨n₁, h₁, h₂⟩ := Except.bind_eq_ok.mp hg
    simp only [Except.pure_eq_ok, Except.ok.injEq] at h₂
    subst h₂
    exact (hf.take h₁).with_maps _ _ _
  complete {n l m} hf hnd := by
    obtain ⟨n₁, h₁⟩ := hf.take_ok hnd
    exact ⟨_, by simp only [nameMultiset, h₁, Except.ok_bind]; rfl⟩
  clash {n m e} hg := by
    simp only [nameMultiset] at hg
    cases h₁ : n.take (multisetIdent prefix_ m) m.source.name with
    | error e' =>
      rw [h₁] at hg
      cases hg
      exact take_clash h₁
    | ok n₁ =>
      rw [h₁] at hg
      cases hg

theorem featureIdents_eq (f : CompiledFeature) :
    featureIdents s f = [(Naming.goName f.source.name ++ "ID", f.source.name)] ++
      f.enums.flatMap (enumIdents f.source.name (Naming.goName f.source.name)) ++
      f.commands.flatMap (commandIdents (Naming.goName f.source.name)) ++
      (featureMultisets s f).flatMap fun m =>
        [(multisetIdent (Naming.goName f.source.name) m, m.source.name)] := by
  simp [featureIdents, List.map_eq_flatMap]

theorem reserves_nameFeature : Reserves (nameFeature s) (featureIdents s) where
  sound {n n' l f} hf hg := by
    obtain ⟨n₁, h₁, hg⟩ := Except.bind_eq_ok.mp hg
    obtain ⟨n₂, h₂, hg⟩ := Except.bind_eq_ok.mp hg
    obtain ⟨n₃, h₃, h₄⟩ := Except.bind_eq_ok.mp hg
    have hf₄ := reserves_nameMultiset.foldlM.sound (reserves_nameCommand.foldlM.sound
      (reserves_nameEnum.foldlM.sound (hf.take h₁) h₂) h₃) h₄
    rw [featureIdents_eq]
    simpa only [List.append_assoc] using hf₄
  complete {n l f} hf hnd := by
    rw [featureIdents_eq] at hnd
    simp only [← List.append_assoc] at hnd
    obtain ⟨n₁, h₁⟩ := hf.take_ok (nodup_fst_of_append (nodup_fst_of_append
      (nodup_fst_of_append hnd)))
    have hf₁ := hf.take h₁
    obtain ⟨n₂, h₂⟩ := reserves_nameEnum.foldlM.complete hf₁
      (nodup_fst_of_append (nodup_fst_of_append hnd))
    have hf₂ := reserves_nameEnum.foldlM.sound hf₁ h₂
    obtain ⟨n₃, h₃⟩ := reserves_nameCommand.foldlM.complete hf₂ (nodup_fst_of_append hnd)
    obtain ⟨n₄, h₄⟩ := reserves_nameMultiset.foldlM.complete
      (reserves_nameCommand.foldlM.sound hf₂ h₃) hnd
    exact ⟨n₄, by simp only [nameFeature, h₁, h₂, h₃, h₄, Except.ok_bind]⟩
  clash {n f e} hg := by
    simp only [nameFeature] at hg
    cases h₁ : n.take (Naming.goName f.source.name ++ "ID") f.source.name with
    | error e' =>
      rw [h₁] at hg
      cases hg
      exact take_clash h₁
    | ok n₁ =>
      rw [h₁, Except.ok_bind] at hg
      cases h₂ : f.enums.foldlM (nameEnum f.source.name (Naming.goName f.source.name)) n₁ with
      | error e' =>
        rw [h₂] at hg
        cases hg
        exact reserves_nameEnum.foldlM.clash h₂
      | ok n₂ =>
        rw [h₂, Except.ok_bind] at hg
        cases h₃ : f.commands.foldlM (nameCommand (Naming.goName f.source.name)) n₂ with
        | error e' =>
          rw [h₃] at hg
          cases hg
          exact reserves_nameCommand.foldlM.clash h₃
        | ok n₃ =>
          rw [h₃, Except.ok_bind] at hg
          exact reserves_nameMultiset.foldlM.clash hg

end Steps

/-- The namer accepts a schema exactly when the identifiers it gives are
pairwise distinct. -/
theorem nameAll_ok_iff (s : Compiled) :
    (∃ n, nameAll s = .ok n) ↔ ((schemaIdents s).map Prod.fst).Nodup := by
  have h := (reserves_nameFeature (s := s)).foldlM
  constructor
  · rintro ⟨n, hn⟩
    simpa [schemaIdents] using (h.sound Namer.fresh_empty hn).nodup
  · intro hnd
    exact h.complete Namer.fresh_empty (by simpa [schemaIdents] using hnd)

/-- The namer fails only by a clash. -/
theorem nameAll_error {s : Compiled} {e : GenError} (he : nameAll s = .error e) :
    e.kind? = some "errNameClash" :=
  (reserves_nameFeature (s := s)).foldlM.clash he

end DroneProtocol.Codegen
