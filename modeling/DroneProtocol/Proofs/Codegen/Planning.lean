import Mathlib
import DroneProtocol.Proofs.Codegen.Identifiers
import DroneProtocol.Proofs.Schema.Compiled

/-! # When code generation fails

Naming fails only by a clash and planning, for a compiled schema, only by a
multiset that leads to itself (`leads`); longer cycles are not refused. Main
statements: `generate_clash_iff` and `generate_recursive_iff`. -/

namespace DroneProtocol.Codegen

open Schema

section Traverse

variable {α β ε : Type} {f : α → Except ε β}

theorem mapM_eq_error : ∀ {l : List α} {e : ε}, l.mapM f = .error e → ∃ a ∈ l, f a = .error e
  | [], _, h => by simp at h
  | a :: l, e, h => by
    rw [List.mapM_cons] at h
    cases ha : f a with
    | error e' =>
      rw [ha] at h
      cases h
      exact ⟨a, List.mem_cons_self, ha⟩
    | ok b =>
      cases hl : l.mapM f with
      | error e' =>
        rw [ha, hl] at h
        cases h
        obtain ⟨a', ha', h'⟩ := mapM_eq_error hl
        exact ⟨a', List.mem_cons_of_mem a ha', h'⟩
      | ok bs =>
        rw [ha, hl] at h
        cases h

theorem mapM_ok_of_forall : ∀ {l : List α}, (∀ a ∈ l, ∃ b, f a = .ok b) → ∃ bs, l.mapM f = .ok bs
  | [], _ => ⟨[], rfl⟩
  | a :: l, h => by
    obtain ⟨b, hb⟩ := h a List.mem_cons_self
    obtain ⟨bs, hbs⟩ := mapM_ok_of_forall fun a' ha' => h a' (List.mem_cons_of_mem a ha')
    exact ⟨b :: bs, by rw [List.mapM_cons, hb, hbs]; rfl⟩

theorem forall₂_of_mapM_eq_ok : ∀ {l : List α} {bs : List β}, l.mapM f = .ok bs →
    List.Forall₂ (fun a b => f a = .ok b) l bs
  | [], _, h => by
    cases h
    exact .nil
  | a :: l, bs, h => by
    rw [List.mapM_cons] at h
    cases ha : f a with
    | error e =>
      rw [ha] at h
      cases h
    | ok b =>
      cases hl : l.mapM f with
      | error e =>
        rw [ha, hl] at h
        cases h
      | ok bs' =>
        rw [ha, hl] at h
        cases h
        exact .cons ha (forall₂_of_mapM_eq_ok hl)

theorem bind_eq_error {γ : Type} {x : Except ε α} {g : α → Except ε γ} {e : ε} :
    (x >>= g) = .error e ↔ x = .error e ∨ ∃ a, x = .ok a ∧ g a = .error e := by
  cases x <;> simp

theorem exists_ok_bind {γ : Type} {x : Except ε α} {g : α → Except ε γ} (hx : ∃ a, x = .ok a)
    (hg : ∀ a, ∃ c, g a = .ok c) : ∃ c, (x >>= g) = .ok c := by
  obtain ⟨a, rfl⟩ := hx
  exact hg a

theorem exists_of_forall₂_getElem? {R : α → β → Prop} :
    ∀ {l₁ : List α} {l₂ : List β}, List.Forall₂ R l₁ l₂ → ∀ {i : Nat} {b : β}, l₂[i]? = some b →
      ∃ a, l₁[i]? = some a ∧ R a b
  | _, _, .nil, _, _, h => by simp at h
  | a :: _, _ :: _, .cons hab hrest, i, b, h => by
    cases i with
    | zero =>
      simp only [List.getElem?_cons_zero, Option.some.injEq] at h
      exact ⟨a, rfl, h ▸ hab⟩
    | succ i =>
      simp only [List.getElem?_cons_succ] at h ⊢
      exact exists_of_forall₂_getElem? hrest h

theorem exists_of_forall₂_mem_right {R : α → β → Prop} {l₁ : List α} {l₂ : List β}
    (h : List.Forall₂ R l₁ l₂) {b : β} (hb : b ∈ l₂) : ∃ a ∈ l₁, R a b := by
  obtain ⟨i, hi⟩ := List.mem_iff_getElem?.mp hb
  obtain ⟨a, ha, hab⟩ := exists_of_forall₂_getElem? h hi
  exact ⟨a, List.mem_of_getElem? ha, hab⟩

theorem exists_of_forall₂_mem_left {R : α → β → Prop} {l₁ : List α} {l₂ : List β}
    (h : List.Forall₂ R l₁ l₂) {a : α} (ha : a ∈ l₁) : ∃ b ∈ l₂, R a b :=
  exists_of_forall₂_mem_right (List.Forall₂.flip (R := flip R) h) ha

theorem mapM_error_of_exists {l : List α} (h : ∃ a ∈ l, ∃ e, f a = .error e) :
    ∃ e, l.mapM f = .error e := by
  cases hl : l.mapM f with
  | error e => exact ⟨e, rfl⟩
  | ok bs =>
    obtain ⟨a, ha, e, he⟩ := h
    obtain ⟨b, -, hb⟩ := exists_of_forall₂_mem_left (forall₂_of_mapM_eq_ok hl) ha
    rw [he] at hb
    cases hb

end Traverse

/-! ### What the namer records -/

/-- The map `m` holds the entries `l`: under each key, the value of the last
entry of that key. -/
def Holds (m : Std.HashMap String String) (l : List (String × String)) : Prop :=
  ∀ k, m[k]? = l.reverse.lookup k

theorem holds_empty : Holds {} [] := fun _ => Std.HashMap.getElem?_empty

theorem Holds.insert {m : Std.HashMap String String} {l : List (String × String)} (h : Holds m l)
    (k v : String) : Holds (m.insert k v) (l ++ [(k, v)]) := by
  intro j
  rw [Std.HashMap.getElem?_insert, List.reverse_append, List.reverse_singleton,
    List.singleton_append, List.lookup_cons, h j]
  by_cases hkj : k = j
  · subst hkj
    simp
  · simp [hkj, beq_false_of_ne (Ne.symm hkj)]

theorem Holds.named {m : Std.HashMap String String} {l : List (String × String)} (h : Holds m l)
    (hne : ∀ p ∈ l, p.2 ≠ "") {k : String} (hk : k ∈ l.map Prod.fst) :
    ∃ v, m[k]? = some v ∧ v ≠ "" := by
  rw [h k]
  cases hl : l.reverse.lookup k with
  | none =>
    rw [lookup_eq_none_iff_not_mem_fst, List.map_reverse, List.mem_reverse] at hl
    exact absurd hk hl
  | some v => exact ⟨v, rfl, hne _ (List.mem_reverse.mp (mem_of_lookup_eq_some hl))⟩

/-- The enum, command and multiset identifiers a namer has recorded, each
under its key. -/
structure Namer.Maps (n : Namer) (es cs ms : List (String × String)) : Prop where
  enums : Holds n.enums es
  commands : Holds n.commands cs
  multisets : Holds n.multisets ms

/-- A naming step `g` records the enum, command and multiset entries `E a`,
`C a` and `M a` of the element `a` it names. -/
def Namer.Records {α : Type} (g : Namer → α → Except GenError Namer)
    (E C M : α → List (String × String)) : Prop :=
  ∀ {n n' : Namer} {es cs ms : List (String × String)} {a : α}, n.Maps es cs ms →
    g n a = .ok n' → n'.Maps (es ++ E a) (cs ++ C a) (ms ++ M a)

namespace Namer

variable {n n' : Namer} {es cs ms : List (String × String)}

theorem Records.foldlM {α : Type} {g : Namer → α → Except GenError Namer}
    {E C M : α → List (String × String)} (h : Records g E C M) :
    Records (fun n (xs : List α) => xs.foldlM g n) (·.flatMap E) (·.flatMap C) (·.flatMap M) := by
  intro n n' es cs ms xs hm hg
  refine foldlM_run_nil
    (I := fun p n => n.Maps (es ++ p.flatMap E) (cs ++ p.flatMap C) (ms ++ p.flatMap M))
    (fun hi hs => ?_) (by simpa using hm) hg
  simpa [List.append_assoc] using h hi hs

theorem Maps.take {i o : String} (h : n.Maps es cs ms) (ht : n.take i o = .ok n') :
    n'.Maps es cs ms := by
  obtain ⟨-, rfl⟩ := take_eq_ok.mp ht
  exact ⟨h.enums, h.commands, h.multisets⟩

theorem Maps.takeAll {l : List (String × String)} (h : n.Maps es cs ms)
    (ht : n.takeAll l = .ok n') : n'.Maps es cs ms :=
  foldlM_inv (I := fun n => n.Maps es cs ms) (fun hi hs => hi.take hs) h
    ((takeAll_eq n l).symm.trans ht)

end Namer

/-- The entry an enum of feature `fname` gets: its table's identifier under
the key `fname.Enum`. -/
def enumEntry (fname prefix_ : String) (e : CompiledEnum) : String × String :=
  (fname ++ "." ++ e.source.name, prefix_ ++ Naming.goName e.source.name ++ "Enum")

def commandEntry (prefix_ : String) (c : CompiledCommand) : String × String :=
  (c.desc.name, commandIdent prefix_ c)

def multisetEntry (prefix_ : String) (m : CompiledMultiset) : String × String :=
  (m.source.name, multisetIdent prefix_ m)

def featureEnumEntries (f : CompiledFeature) : List (String × String) :=
  f.enums.map (enumEntry f.source.name (Naming.goName f.source.name))

def featureCommandEntries (f : CompiledFeature) : List (String × String) :=
  f.commands.map (commandEntry (Naming.goName f.source.name))

def featureMultisetEntries (s : Compiled) (f : CompiledFeature) : List (String × String) :=
  (featureMultisets s f).map (multisetEntry (Naming.goName f.source.name))

theorem flatMap_const_nil {α β : Type} (l : List α) : l.flatMap (fun _ => ([] : List β)) = [] :=
  List.flatMap_eq_nil_iff.mpr fun _ _ => rfl

section Records

open Namer

variable {fname prefix_ : String} {s : Compiled}

theorem records_nameEnum :
    Records (nameEnum fname prefix_) (fun e => [enumEntry fname prefix_ e]) (fun _ => [])
      (fun _ => []) := by
  intro n n' es cs ms e hm hg
  obtain ⟨n₁, h₁, h₂⟩ := Except.bind_eq_ok.mp hg
  simp only at h₂
  have hm₁ := hm.take h₁
  -- the table's identifier is recorded between taking it and taking the values'
  have hm₂ : Maps { n₁ with
      enums := n₁.enums.insert (enumEntry fname prefix_ e).1 (enumEntry fname prefix_ e).2 }
      (es ++ [enumEntry fname prefix_ e]) cs ms :=
    ⟨hm₁.enums.insert _ _, hm₁.commands, hm₁.multisets⟩
  simpa using hm₂.takeAll h₂

theorem records_nameCommand :
    Records (nameCommand prefix_) (fun _ => []) (fun c => [commandEntry prefix_ c])
      (fun _ => []) := by
  intro n n' es cs ms c hm hg
  obtain ⟨n₁, h₁, h₂⟩ := Except.bind_eq_ok.mp hg
  cases h₂
  have hm₁ := hm.takeAll h₁
  simpa [commandEntry] using (⟨hm₁.enums, hm₁.commands.insert _ _, hm₁.multisets⟩ :
    Maps { n₁ with commands := n₁.commands.insert c.desc.name (commandIdent prefix_ c) } _ _ _)

theorem records_nameMultiset :
    Records (nameMultiset prefix_) (fun _ => []) (fun _ => [])
      (fun m => [multisetEntry prefix_ m]) := by
  intro n n' es cs ms m hm hg
  obtain ⟨n₁, h₁, h₂⟩ := Except.bind_eq_ok.mp hg
  cases h₂
  have hm₁ := hm.take h₁
  simpa [multisetEntry] using (⟨hm₁.enums, hm₁.commands, hm₁.multisets.insert _ _⟩ :
    Maps { n₁ with multisets := n₁.multisets.insert m.source.name (multisetIdent prefix_ m) } _ _ _)

theorem records_nameFeature :
    Records (nameFeature s) featureEnumEntries featureCommandEntries (featureMultisetEntries s) := by
  intro n n' es cs ms f hm hg
  obtain ⟨n₁, h₁, hg⟩ := Except.bind_eq_ok.mp hg
  obtain ⟨n₂, h₂, hg⟩ := Except.bind_eq_ok.mp hg
  obtain ⟨n₃, h₃, hg⟩ := Except.bind_eq_ok.mp hg
  have hm₂ := records_nameEnum.foldlM (hm.take h₁) h₂
  have hm₃ := records_nameCommand.foldlM hm₂ h₃
  have hm₄ := records_nameMultiset.foldlM hm₃ hg
  simpa [featureEnumEntries, featureCommandEntries, featureMultisetEntries, List.map_eq_flatMap,
    flatMap_const_nil] using hm₄

/-- The entries of all enums, commands and multisets of a schema, feature by
feature. -/
def enumEntries (s : Compiled) : List (String × String) := s.features.flatMap featureEnumEntries

def commandEntries (s : Compiled) : List (String × String) := s.features.flatMap featureCommandEntries

def multisetEntries (s : Compiled) : List (String × String) :=
  s.features.flatMap (featureMultisetEntries s)

/-- A namer that named a whole schema has recorded its entries. -/
theorem nameAll_maps {n : Namer} (h : nameAll s = .ok n) :
    n.Maps (enumEntries s) (commandEntries s) (multisetEntries s) := by
  simpa [enumEntries, commandEntries, multisetEntries] using
    records_nameFeature.foldlM (⟨holds_empty, holds_empty, holds_empty⟩ :
    ({} : Namer).Maps [] [] []) h

end Records

/-! ### Identifiers of compiled schemas -/

section Compiled

variable {defs : List FeatureDef} {s : Compiled}

theorem append_ne_empty {a b : String} (hb : b ≠ "") : a ++ b ≠ "" :=
  fun h => hb (String.append_eq_empty_iff.mp h).2

theorem mem_multisets_of_mem_featureMultisets {f : CompiledFeature} {m : CompiledMultiset}
    (hm : m ∈ featureMultisets s f) : m ∈ s.multisets := by
  obtain ⟨md, -, hmd⟩ := List.mem_filterMap.mp hm
  exact List.mem_of_find?_eq_some hmd

theorem exists_mem_featureMultisets (h : Resolves defs s) {m : CompiledMultiset}
    (hm : m ∈ s.multisets) : ∃ f ∈ s.features, m ∈ featureMultisets s f := by
  obtain ⟨d, hd, hmd, -⟩ := h.declared_of_mem hm
  obtain ⟨f, hf, rfl⟩ := h.feature_of_mem hd
  refine ⟨f, hf, List.mem_filterMap.mpr ⟨m.source, hmd, ?_⟩⟩
  rw [← h.names m hm]
  exact h.multiset?_eq hm

theorem enumEntries_keys (h : Resolves defs s) :
    (enumEntries s).map Prod.fst = (declaredEnums defs).map Prod.fst := by
  rw [← h.sources]
  simp only [enumEntries, declaredEnums, featureEnumEntries, List.map_flatMap, List.flatMap_map,
    List.map_map]
  refine List.flatMap_congr fun f hf => ?_
  rw [← h.enums f hf, List.map_map]
  rfl

theorem nameAll_enums (h : Resolves defs s) {n : Namer} (hn : nameAll s = .ok n) :
    ∀ key ∈ (declaredEnums defs).map Prod.fst, ∃ v, n.enums[key]? = some v ∧ v ≠ "" := by
  intro key hkey
  refine (nameAll_maps hn).enums.named ?_ (enumEntries_keys h ▸ hkey)
  simp only [enumEntries, featureEnumEntries, List.mem_flatMap, List.mem_map]
  rintro _ ⟨f, -, e, -, rfl⟩
  exact append_ne_empty (by decide)

/-- A namer of a compiled schema has an identifier for every declared
multiset. -/
theorem nameAll_multisets (h : Resolves defs s) {n : Namer} (hn : nameAll s = .ok n) :
    ∀ r ∈ refsOf (declaredMultisets defs), ∃ v, n.multisets[r.name]? = some v ∧ v ≠ "" := by
  intro r hr
  have hname : r.name ∈ (declaredMultisets defs).map (·.1.name) :=
    refsOf_names _ ▸ List.mem_map_of_mem hr
  obtain ⟨⟨md, o⟩, hmd, hrn⟩ := List.mem_map.mp hname
  obtain ⟨d, hd, hmd, -⟩ : ∃ d ∈ defs, md ∈ d.multisets ∧ d.name = o := by
    simpa [declaredMultisets] using hmd
  obtain ⟨m, hm, rfl, -, hfind⟩ := h.multiset?_declared hd hmd
  obtain ⟨f, hf, rfl⟩ := h.feature_of_mem hd
  -- the multiset is named in the file of the feature that declares it
  have hkey : r.name ∈ (multisetEntries s).map Prod.fst := by
    simp only [multisetEntries, featureMultisetEntries, List.map_flatMap, List.map_map,
      List.mem_flatMap, List.mem_map]
    exact ⟨f, hf, m, List.mem_filterMap.mpr ⟨m.source, hmd, hfind⟩, hrn⟩
  refine (nameAll_maps hn).multisets.named ?_ hkey
  simp only [multisetEntries, featureMultisetEntries, List.mem_flatMap, List.mem_map]
  rintro _ ⟨f, -, m, -, rfl⟩
  exact append_ne_empty (by decide)

end Compiled

/-! ### Plans of compiled schemas -/

section Plans

variable {n : Namer} {E : List (String × EnumDef)} {R : List MultisetRef}

/-- An argument whose enum and multiset references are among declarations
that have identifiers is planned. -/
theorem planArg_ok {feature : String} {ad : ArgDef} {a : Arg} (hf : ArgFrom E R feature ad a)
    (hE : ∀ key ∈ E.map Prod.fst, ∃ v, n.enums[key]? = some v ∧ v ≠ "")
    (hR : ∀ r ∈ R, ∃ v, n.multisets[r.name]? = some v ∧ v ≠ "") (command : String) (i : Nat) :
    ∃ p, planArg n feature command a ad i = .ok p := by
  unfold planArg
  -- a table or multiset is looked up only for the types that carry one
  cases ht : a.type
  case enum =>
    obtain ⟨ed, hl, -⟩ := hf.enum (Or.inl ht)
    obtain ⟨v, hv, hne⟩ := hE _ (List.mem_map.mpr ⟨_, mem_of_lookup_eq_some hl, rfl⟩)
    simp [hv, hne, hf.noMultiset (by simp [ht])]
  case bitfield =>
    obtain ⟨ed, hl, -⟩ := hf.enum (Or.inr ht)
    obtain ⟨v, hv, hne⟩ := hE _ (List.mem_map.mpr ⟨_, mem_of_lookup_eq_some hl, rfl⟩)
    simp [hv, hne, hf.noMultiset (by simp [ht])]
  case multiset =>
    obtain ⟨r, hfind, hr⟩ := hf.multiset ht
    obtain ⟨v, hv, hne⟩ := hR r (List.mem_of_find?_eq_some hfind)
    simp [hv, hne, hr, hf.noEnum (by simp [ht])]
  all_goals simp [hf.noEnum (by simp [ht]), hf.noMultiset (by simp [ht])]

theorem planCommand_ok {d : FeatureDef} {k : String × UInt8 × CommandDef} {c : CompiledCommand}
    (hc : CommandFrom E R d k c)
    (hE : ∀ key ∈ E.map Prod.fst, ∃ v, n.enums[key]? = some v ∧ v ≠ "")
    (hR : ∀ r ∈ R, ∃ v, n.multisets[r.name]? = some v ∧ v ≠ "") :
    ∃ p, planCommand n d.name c = .ok p := by
  unfold planCommand
  refine exists_ok_bind (mapM_ok_of_forall ?_) fun _ => ⟨_, rfl⟩
  rintro ⟨a, i⟩ hai
  -- the argument at place `i` comes from the definition's argument there
  obtain ⟨ad, had, hf⟩ := exists_of_forall₂_getElem? hc.args (List.mem_zipIdx_iff_getElem?.mp hai)
  rw [← hc.source] at had
  simpa [had] using planArg_ok hf hE hR c.desc.name i

/-- An argument's plan fails only for want of an identifier. -/
theorem planArg_error {feature command : String} {a : Arg} {src : ArgDef} {i : Nat} {e : GenError}
    (h : planArg n feature command a src i = .error e) : e = .unnamed command a.name := by
  unfold planArg at h
  simp only at h
  split_ifs at h
  · cases h
    rfl
  · cases h

theorem planCommand_error {fname : String} {c : CompiledCommand} {e : GenError}
    (h : planCommand n fname c = .error e) : ∃ arg, e = .unnamed c.desc.name arg := by
  unfold planCommand at h
  rcases bind_eq_error.mp h with h | ⟨_, -, h⟩
  · obtain ⟨⟨a, i⟩, -, h⟩ := mapM_eq_error h
    exact ⟨a.name, planArg_error h⟩
  · cases h

theorem planMultiset_eq_error {m : CompiledMultiset} {e : GenError} :
    planMultiset n m = .error e ↔
      ∃ member, recursiveMember? m = some member ∧ e = .recursive member.name m.source.name := by
  unfold planMultiset
  cases recursiveMember? m <;> simp [eq_comm]

variable {s : Compiled} {f : CompiledFeature} {pkg : String} {e : GenError}

theorem planFeature_eq_error (h : planFeature s n f pkg = .error e) :
    (∃ m ∈ featureMultisets s f, planMultiset n m = .error e) ∨
      ∃ c ∈ f.commands, planCommand n f.source.name c = .error e := by
  unfold planFeature at h
  rcases bind_eq_error.mp h with h | ⟨_, -, h⟩
  · exact Or.inl (mapM_eq_error h)
  · rcases bind_eq_error.mp h with h | ⟨_, -, h⟩
    · exact Or.inr (mapM_eq_error h)
    · cases h

theorem planFeature_error_kind (h : planFeature s n f pkg = .error e) :
    e.kind? = some "errRecursiveMultiset" ∨ e.kind? = none := by
  rcases planFeature_eq_error h with ⟨m, -, hm⟩ | ⟨c, -, hc⟩
  · obtain ⟨member, -, rfl⟩ := planMultiset_eq_error.mp hm
    exact Or.inl rfl
  · obtain ⟨arg, rfl⟩ := planCommand_error hc
    exact Or.inr rfl

theorem planFeature_error_of_recursive {m : CompiledMultiset} (hm : m ∈ featureMultisets s f)
    (hr : (recursiveMember? m).isSome) : ∃ e, planFeature s n f pkg = .error e := by
  obtain ⟨member, hmember⟩ := Option.isSome_iff_exists.mp hr
  obtain ⟨e, he⟩ := mapM_error_of_exists
    ⟨m, hm, _, planMultiset_eq_error.mpr ⟨member, hmember, rfl⟩⟩
  exact ⟨e, bind_eq_error.mpr (Or.inl he)⟩

variable {defs : List FeatureDef}

theorem planFeature_ok (hres : Resolves defs s) (hn : nameAll s = .ok n) (hf : f ∈ s.features)
    (hm : ∀ m ∈ featureMultisets s f, recursiveMember? m = none) :
    ∃ p, planFeature s n f pkg = .ok p := by
  unfold planFeature
  refine exists_ok_bind (mapM_ok_of_forall fun m hm' => ?_) fun _ =>
    exists_ok_bind (mapM_ok_of_forall fun c hc => ?_) fun _ => ⟨_, rfl⟩
  · unfold planMultiset
    rw [hm m hm']
    exact ⟨_, rfl⟩
  · obtain ⟨k, -, hk⟩ := exists_of_forall₂_mem_right (hres.commands f hf) hc
    exact planCommand_ok hk (nameAll_enums hres hn) (nameAll_multisets hres hn)

/-- In a compiled schema that the namer accepted, a feature's plan fails only
by a recursive multiset. -/
theorem planFeature_error_recursive (hres : Resolves defs s) (hn : nameAll s = .ok n)
    (hf : f ∈ s.features) (h : planFeature s n f pkg = .error e) :
    e.kind? = some "errRecursiveMultiset" := by
  rcases planFeature_eq_error h with ⟨m, -, hm⟩ | ⟨c, hc, he⟩
  · obtain ⟨member, -, rfl⟩ := planMultiset_eq_error.mp hm
    rfl
  · obtain ⟨k, -, hk⟩ := exists_of_forall₂_mem_right (hres.commands f hf) hc
    obtain ⟨p, hp⟩ := planCommand_ok (n := n) hk (nameAll_enums hres hn) (nameAll_multisets hres hn)
    rw [hp] at he
    cases he

end Plans

/-! ### Generation -/

/-- The reference graph of a compiled schema, between multisets: the multiset
named `x` leads to the multiset named `y` when a member of `x` has an argument
of the multiset `y`. -/
def leads (s : Compiled) (x y : String) : Bool :=
  s.multisets.any fun m => m.decl.name == x &&
    m.decl.members.any fun c => c.args.any fun a => a.multiset.any (·.name == y)

theorem recursiveMember?_isSome (m : CompiledMultiset) : (recursiveMember? m).isSome =
    m.decl.members.any fun c => c.args.any fun a => a.multiset.any (·.name == m.decl.name) := by
  rw [Bool.eq_iff_iff, List.any_eq_true, recursiveMember?, List.find?_isSome]

theorem exists_leads_self_iff (s : Compiled) :
    (∃ x, leads s x x = true) ↔ ∃ m ∈ s.multisets, (recursiveMember? m).isSome := by
  simp only [leads, List.any_eq_true, Bool.and_eq_true, beq_iff_eq, recursiveMember?_isSome]
  constructor
  · rintro ⟨x, m, hm, rfl, h⟩
    exact ⟨m, hm, h⟩
  · rintro ⟨m, hm, h⟩
    exact ⟨m.decl.name, m, hm, rfl, h⟩

variable {s : Compiled} {pkg : String} {e : GenError}

theorem generate_eq_error :
    generate s pkg = .error e ↔ nameAll s = .error e ∨
      ∃ n, nameAll s = .ok n ∧ s.features.mapM (fun f => planFeature s n f pkg) = .error e := by
  unfold generate
  rw [bind_eq_error]
  refine or_congr_right (exists_congr fun n => and_congr_right fun _ => ?_)
  rw [bind_eq_error]
  simp

/-- The files generated for a schema: one for each feature, named after it,
then the registry. -/
theorem generate_names {files : List SourceFile} (h : generate s pkg = .ok files) :
    files.map (·.name) =
      s.features.map (fun f => Naming.fileName f.source.name ++ "_gen.go") ++ ["registry_gen.go"] := by
  unfold generate at h
  obtain ⟨n, -, h⟩ := Except.bind_eq_ok.mp h
  obtain ⟨plans, hplans, h⟩ := Except.bind_eq_ok.mp h
  cases h
  have hlen := (forall₂_of_mapM_eq_ok hplans).length_eq
  rw [List.map_append, List.map_map]
  congr 1
  calc _ = ((plans.zip s.features).map Prod.snd).map
          (fun f => Naming.fileName f.source.name ++ "_gen.go") := by
        rw [List.map_map]
        exact List.map_congr_left fun _ _ => rfl
    _ = _ := by rw [List.map_snd_zip (Nat.le_of_eq hlen)]

variable {defs : List FeatureDef}

/-- For a compiled schema, generation succeeds exactly when the namer's
identifiers are distinct and no multiset leads to itself. -/
theorem generate_ok_iff (hres : Resolves defs s) :
    (∃ files, generate s pkg = .ok files) ↔
      ((schemaIdents s).map Prod.fst).Nodup ∧ ∀ x, leads s x x = false := by
  rw [← nameAll_ok_iff]
  constructor
  · rintro ⟨files, h⟩
    unfold generate at h
    obtain ⟨n, hn, h⟩ := Except.bind_eq_ok.mp h
    obtain ⟨plans, hplans, -⟩ := Except.bind_eq_ok.mp h
    refine ⟨⟨n, hn⟩, fun x => Bool.eq_false_iff.mpr fun hx => ?_⟩
    -- a multiset leading to itself makes the plan of its feature fail
    obtain ⟨m, hm, hr⟩ := (exists_leads_self_iff s).mp ⟨x, hx⟩
    obtain ⟨f, hf, hmf⟩ := exists_mem_featureMultisets hres hm
    obtain ⟨e, he⟩ : ∃ e, planFeature s n f pkg = .error e := planFeature_error_of_recursive hmf hr
    obtain ⟨p, -, hp⟩ := exists_of_forall₂_mem_left (forall₂_of_mapM_eq_ok hplans) hf
    rw [he] at hp
    cases hp
  · rintro ⟨⟨n, hn⟩, hx⟩
    -- every feature is planned, since none of its multisets carries itself
    obtain ⟨plans, hplans⟩ : ∃ plans, s.features.mapM (fun f => planFeature s n f pkg) = .ok plans := by
      refine mapM_ok_of_forall fun f hf => planFeature_ok hres hn hf fun m hm => ?_
      cases hr : recursiveMember? m with
      | none => rfl
      | some member =>
        obtain ⟨x, hx'⟩ := (exists_leads_self_iff s).mpr
          ⟨m, mem_multisets_of_mem_featureMultisets hm, by simp [hr]⟩
        rw [hx x] at hx'
        cases hx'
    exact ⟨_, Except.bind_eq_ok.mpr ⟨n, hn, Except.bind_eq_ok.mpr ⟨plans, hplans, rfl⟩⟩⟩

/-- Generation reports a clash exactly when the namer's identifiers are not
pairwise distinct. -/
theorem generate_clash_iff (s : Compiled) (pkg : String) :
    (∃ e, generate s pkg = .error e ∧ e.kind? = some "errNameClash") ↔
      ¬((schemaIdents s).map Prod.fst).Nodup := by
  rw [← nameAll_ok_iff]
  constructor
  · rintro ⟨e, he, hk⟩ ⟨n, hn⟩
    rcases generate_eq_error.mp he with h | ⟨n', -, hp⟩
    · rw [hn] at h
      cases h
    -- a plan fails by a recursive multiset or a missing identifier, never by a clash
    · obtain ⟨f, -, hf⟩ := mapM_eq_error hp
      rcases planFeature_error_kind hf with h | h <;> simp [h] at hk
  · intro h
    cases hn : nameAll s with
    | ok n => exact absurd ⟨n, hn⟩ h
    | error e => exact ⟨e, generate_eq_error.mpr (Or.inl hn), nameAll_error hn⟩

/-- A feature named `registry` compiles and generates, but its file gets the
registry's file name. -/
theorem generate_registry_file_clash :
    ∃ s files, compile [{ name := "registry", id := 2 }] = .ok s ∧
      generate s "features" = .ok files ∧ ¬(files.map (·.name)).Nodup := by
  have hc : compile [{ name := "registry", id := 2 }] = .ok
      { table := ⟨[], [], [], []⟩, multisets := [],
        features := [{ source := { name := "registry", id := 2 }, enums := [], commands := [] }] } := by
    simp [compile, declare, declareFeature, compileNext, Compiler.compileFeature,
      Compiler.resolveMembers, Table.build, Table.sorted, Table.empty]
  obtain ⟨files, hfiles⟩ : ∃ files, generate _ "features" = .ok files :=
    (generate_ok_iff (compile_resolves hc)).mpr
      ⟨by simp [schemaIdents, featureIdents, featureMultisets], fun _ => by simp [leads]⟩
  have hname : Naming.fileName "registry" = "registry" := by decide
  refine ⟨_, files, hc, hfiles, ?_⟩
  simp [generate_names hfiles, hname]

/-! ### Two multisets that carry each other -/

/-- The commands `X` and `Y` of a feature: `X` has an argument of the multiset
`b`, `Y` one of the multiset `a`. -/
def cycleDefX : CommandDef :=
  { name := "X", id := 0, args := [{ name := "s", type := "multiset", multiset := "b" }] }

def cycleDefY : CommandDef :=
  { name := "Y", id := 1, args := [{ name := "t", type := "multiset", multiset := "a" }] }

/-- A feature whose multiset `a` holds `f.X` and whose multiset `b` holds
`f.Y`: `a` leads to `b` and `b` back to `a`. -/
def cycleFeature : FeatureDef :=
  { name := "f", id := 2, commands := [cycleDefX, cycleDefY],
    multisets := [{ name := "a", members := ["f.X"] }, { name := "b", members := ["f.Y"] }] }

def cycleX : Command :=
  { name := "f.X", feature := 2, cls := 0, id := 0, delivery := .ack,
    args := [{ name := "s", type := .multiset, multiset := some ⟨"b", 1⟩ }] }

def cycleY : Command :=
  { name := "f.Y", feature := 2, cls := 0, id := 1, delivery := .ack,
    args := [{ name := "t", type := .multiset, multiset := some ⟨"a", 0⟩ }] }

def cycleTable : Table :=
  Table.sorted ⟨[cycleX, cycleY], [⟨"f", 2, [⟨defaultClassName, 0, true, [cycleX, cycleY]⟩]⟩],
    [⟨"b", 1, [cycleY]⟩, ⟨"a", 0, [cycleX]⟩], [⟨"a", 0, [cycleX]⟩, ⟨"b", 1, [cycleY]⟩]⟩

def cycleCompiled : Compiled where
  table := cycleTable
  features := [{ source := cycleFeature, enums := [],
                 commands := [⟨cycleDefX, cycleX, ""⟩, ⟨cycleDefY, cycleY, ""⟩] }]
  multisets := [⟨{ name := "a", members := ["f.X"] }, ⟨"a", 0, [cycleX]⟩, "f"⟩,
    ⟨{ name := "b", members := ["f.Y"] }, ⟨"b", 1, [cycleY]⟩, "f"⟩]

theorem build_cycle :
    Table.build [⟨"a", 0, [some cycleX]⟩, ⟨"b", 1, [some cycleY]⟩] [some cycleX, some cycleY]
      [some ⟨"a", 0, [some cycleX]⟩, some ⟨"b", 1, [some cycleY]⟩] = .ok cycleTable := by
  have hx : "f.X".splitOn "." = ["f", "X"] := by
    simp +decide only [String.splitOn, ↓reduceIte, String.splitOnAux,
      String.Pos.Raw.unoffsetBy_zero, List.reverse_cons, List.reverse_nil, List.nil_append,
      List.cons_append, List.cons.injEq]
  have hy : "f.Y".splitOn "." = ["f", "Y"] := by
    simp +decide only [String.splitOn, ↓reduceIte, String.splitOnAux,
      String.Pos.Raw.unoffsetBy_zero, List.reverse_cons, List.reverse_nil, List.nil_append,
      List.cons_append, List.cons.injEq]
  -- filing each command needs its path, the rest of the table evaluates
  have haddX : Table.empty.add cycleX =
      .ok ⟨[cycleX], [⟨"f", 2, [⟨defaultClassName, 0, true, [cycleX]⟩]⟩], [], []⟩ := by
    have hp : Table.place cycleX = .ok ("f", defaultClassName, "X", true) := by
      simp [Table.place, hx, cycleX]
    simp only [Table.add, hp]
    simp [Table.featureFor, Table.classFor, Table.refile, Table.empty, FeatureInfo.cls?,
      ClassInfo.command?, cycleX]
  have hsX : cycleX.shortName = "X" := by simp [Command.shortName, Command.path, cycleX, hx]
  have haddY : Table.add ⟨[cycleX], [⟨"f", 2, [⟨defaultClassName, 0, true, [cycleX]⟩]⟩],
      [⟨"b", 1, [cycleY]⟩], []⟩ cycleY = .ok ⟨[cycleX, cycleY],
        [⟨"f", 2, [⟨defaultClassName, 0, true, [cycleX, cycleY]⟩]⟩], [⟨"b", 1, [cycleY]⟩], []⟩ := by
    have hp : Table.place cycleY = .ok ("f", defaultClassName, "Y", true) := by
      simp [Table.place, hy, cycleY]
    have hid : cycleX.identity ≠ cycleY.identity := by decide
    simp only [Table.add, hp]
    simp [Table.featureFor, Table.classFor, Table.refile, FeatureInfo.cls?, ClassInfo.command?, hid]
    simp [cycleY, hsX]
  have hX : Table.addCommand [⟨"a", 0, [some cycleX]⟩, ⟨"b", 1, [some cycleY]⟩] Table.empty
      (some cycleX) = .ok ⟨[cycleX], [⟨"f", 2, [⟨defaultClassName, 0, true, [cycleX]⟩]⟩],
        [⟨"b", 1, [cycleY]⟩], []⟩ := by
    simp only [Table.addCommand, haddX]
    rfl
  have hY : Table.addCommand [⟨"a", 0, [some cycleX]⟩, ⟨"b", 1, [some cycleY]⟩]
      ⟨[cycleX], [⟨"f", 2, [⟨defaultClassName, 0, true, [cycleX]⟩]⟩], [⟨"b", 1, [cycleY]⟩], []⟩
      (some cycleY) = .ok ⟨[cycleX, cycleY],
        [⟨"f", 2, [⟨defaultClassName, 0, true, [cycleX, cycleY]⟩]⟩],
        [⟨"b", 1, [cycleY]⟩, ⟨"a", 0, [cycleX]⟩], []⟩ := by
    simp only [Table.addCommand, haddY]
    rfl
  simp only [Table.build, List.foldlM_cons, List.foldlM_nil, hX, Except.ok_bind, hY]
  rfl

theorem compile_cycle : compile [cycleFeature] = .ok cycleCompiled := by
  let declared : List CompiledMultiset :=
    [⟨{ name := "a", members := ["f.X"] }, ⟨"a", 0, []⟩, "f"⟩,
      ⟨{ name := "b", members := ["f.Y"] }, ⟨"b", 1, []⟩, "f"⟩]
  let byName := [("f.X", cycleX), ("f.Y", cycleY)]
  -- declaring the feature gives its two multisets, still without members
  have hdecl : declare [cycleFeature] = .ok { multisets := declared } := rfl
  -- its commands compile to `cycleX` and `cycleY`, `s` pointing to `b` and `t` to `a`
  have hnext : [cycleFeature].foldlM compileNext ({ multisets := declared }, []) =
      .ok ({ multisets := declared, byName }, [[⟨cycleDefX, cycleX, ""⟩, ⟨cycleDefY, cycleY, ""⟩]]) :=
    rfl
  -- resolving the members fills `a` with `f.X` and `b` with `f.Y`
  have hres : Compiler.resolveMembers { multisets := declared, byName } [cycleFeature] =
      .ok { multisets := cycleCompiled.multisets, byName } := rfl
  rw [compile, hdecl, Except.ok_bind, hnext, Except.ok_bind, hres, Except.ok_bind]
  -- what is left builds the table of the filled multisets, which is `cycleTable`
  dsimp only
  generalize hb : Table.build _ _ _ = r
  obtain rfl : r = .ok cycleTable := hb.symm.trans build_cycle
  rfl

/-- For a compiled schema, generation reports a recursive multiset exactly
when the namer's identifiers are distinct and some multiset leads to itself
in the reference graph. -/
theorem generate_recursive_iff (hc : compile defs = .ok s) (pkg : String) :
    (∃ e, generate s pkg = .error e ∧ e.kind? = some "errRecursiveMultiset") ↔
      ((schemaIdents s).map Prod.fst).Nodup ∧ ∃ x, leads s x x = true := by
  have hres := compile_resolves hc
  rw [← nameAll_ok_iff]
  constructor
  · rintro ⟨e, he, hk⟩
    rcases generate_eq_error.mp he with h | ⟨n, hn, hp⟩
    · simp [nameAll_error h] at hk
    · obtain ⟨f, -, hf⟩ := mapM_eq_error hp
      refine ⟨⟨n, hn⟩, ?_⟩
      rcases planFeature_eq_error hf with ⟨m, hm, hpm⟩ | ⟨c, -, hpc⟩
      · obtain ⟨member, hmember, -⟩ := planMultiset_eq_error.mp hpm
        exact (exists_leads_self_iff s).mpr
          ⟨m, mem_multisets_of_mem_featureMultisets hm, by simp [hmember]⟩
      · obtain ⟨arg, rfl⟩ := planCommand_error hpc
        cases hk
  · rintro ⟨⟨n, hn⟩, hx⟩
    obtain ⟨m, hm, hr⟩ := (exists_leads_self_iff s).mp hx
    obtain ⟨f, hf, hmf⟩ := exists_mem_featureMultisets hres hm
    have hfe : ∃ e, planFeature s n f pkg = .error e := planFeature_error_of_recursive hmf hr
    obtain ⟨e, he⟩ : ∃ e, s.features.mapM (fun f => planFeature s n f pkg) = .error e :=
      mapM_error_of_exists ⟨f, hf, hfe⟩
    -- the first feature whose plan fails fails by a recursive multiset
    obtain ⟨f', hf', hpf⟩ := mapM_eq_error he
    exact ⟨e, generate_eq_error.mpr (Or.inr ⟨n, hn, he⟩), planFeature_error_recursive hres hn hf' hpf⟩

/-- An instance: the schema with two multisets that carry each other
compiles, and the statement above applies to it. -/
theorem generate_recursive_cycle :
    compile [cycleFeature] = .ok cycleCompiled ∧
      ((∃ e, generate cycleCompiled "features" = .error e ∧ e.kind? = some "errRecursiveMultiset") ↔
        ((schemaIdents cycleCompiled).map Prod.fst).Nodup ∧ ∃ x, leads cycleCompiled x x = true) :=
  ⟨compile_cycle, generate_recursive_iff compile_cycle "features"⟩

theorem generate_cycle_ok : ∃ files, generate cycleCompiled "features" = .ok files := by
  refine (generate_ok_iff (compile_resolves compile_cycle)).mpr ⟨by decide, fun x => ?_⟩
  -- `a` leads only to `b`, and `b` only to `a`
  by_cases ha : x = "a"
  · subst ha
    decide
  by_cases hb : x = "b"
  · subst hb
    decide
  simp [leads, cycleCompiled, cycleX, cycleY, Ne.symm ha, Ne.symm hb]

/-- Generation accepts `cycleFeature`, although `a` leads to `b` and `b` back
to `a`: a cycle through two multisets is not refused. -/
theorem generate_accepts_cycle :
    compile [cycleFeature] = .ok cycleCompiled ∧
      Relation.TransGen (fun x y => leads cycleCompiled x y = true) "a" "a" ∧
      ∃ files, generate cycleCompiled "features" = .ok files := by
  have hab : leads cycleCompiled "a" "b" = true := by decide
  have hba : leads cycleCompiled "b" "a" = true := by decide
  exact ⟨compile_cycle, .tail (.single hab) hba, generate_cycle_ok⟩

end DroneProtocol.Codegen
