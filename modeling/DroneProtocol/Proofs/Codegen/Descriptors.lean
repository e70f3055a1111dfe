import Mathlib
import DroneProtocol.Proofs.Codegen.Denotation

/-! # Generated descriptors are the compiled ones

Every variable of a generated file stands for the object it was named for
(`bindings_resolved`), because the namer's identifiers are distinct and each
object is looked up under a key of its own. Main statement:
`generated_descriptors_denote`. -/

namespace DroneProtocol.Codegen

open Schema

/-! ### Lists -/

section Lists

variable {α β γ δ : Type}

theorem map_sublist_flatMap {l : List α} {g : α → β} {F : α → List β} (h : ∀ a ∈ l, g a ∈ F a) :
    List.Sublist (l.map g) (l.flatMap F) := by
  rw [List.map_eq_flatMap]
  exact List.Sublist.flatMap_right _ fun a ha => List.singleton_sublist.mpr (h a ha)

theorem forall₂_flatMap {R : γ → δ → Prop} {F : α → List γ} {G : β → List δ} :
    ∀ {as : List α} {bs : List β}, List.Forall₂ (fun a b => List.Forall₂ R (F a) (G b)) as bs →
      List.Forall₂ R (as.flatMap F) (bs.flatMap G)
  | _, _, .nil => .nil
  | _, _, .cons h hs => by
    rw [List.flatMap_cons, List.flatMap_cons]
    exact List.rel_append h (forall₂_flatMap hs)

theorem flatMap_eq_of_forall₂ {F : α → List γ} {G : β → List γ} :
    ∀ {as : List α} {bs : List β}, List.Forall₂ (fun a b => G b = F a) as bs →
      bs.flatMap G = as.flatMap F
  | _, _, .nil => rfl
  | _, _, .cons h hs => by rw [List.flatMap_cons, List.flatMap_cons, h, flatMap_eq_of_forall₂ hs]

theorem eq_map_of_forall₂ {g : α → β} :
    ∀ {as : List α} {bs : List β}, List.Forall₂ (fun a b => b = g a) as bs → bs = as.map g
  | _, _, .nil => rfl
  | _, _, .cons h hs => by rw [List.map_cons, h, eq_map_of_forall₂ hs]

end Lists

theorem Holds.getElem?_of_mem {m : Std.HashMap String String} {l : List (String × String)}
    (h : Holds m l) (hnd : (l.map Prod.fst).Nodup) {k v : String} (hkv : (k, v) ∈ l) :
    m[k]? = some v := by
  rw [h k]
  exact lookup_of_mem (by rw [List.map_reverse]; exact List.nodup_reverse.mpr hnd)
    (List.mem_reverse.mpr hkv)

/-! ### Distinct identifiers -/

section Idents

variable {s : Compiled} {n : Namer}

/-- The identifiers of enum tables are among those the namer checks. -/
theorem enumEntries_idents_sublist :
    List.Sublist ((enumEntries s).map Prod.snd) ((schemaIdents s).map Prod.fst) := by
  simp only [enumEntries, schemaIdents, List.map_flatMap]
  refine List.Sublist.flatMap_right _ fun f _ => ?_
  simp only [featureEnumEntries, featureIdents, List.map_map, List.map_cons, List.map_append,
    List.map_flatMap]
  refine List.Sublist.cons _ ((map_sublist_flatMap fun e _ => ?_).trans (List.sublist_append_left _ _))
  simp [enumEntry, enumIdents]

theorem commandEntries_idents_sublist :
    List.Sublist ((commandEntries s).map Prod.snd) ((schemaIdents s).map Prod.fst) := by
  simp only [commandEntries, schemaIdents, List.map_flatMap]
  refine List.Sublist.flatMap_right _ fun f _ => ?_
  simp only [featureCommandEntries, featureIdents, List.map_map, List.map_cons, List.map_append,
    List.map_flatMap]
  refine List.Sublist.cons _ (((map_sublist_flatMap fun c _ => ?_).trans
    (List.sublist_append_left _ _)).trans (List.sublist_append_right _ _))
  simp [commandEntry, commandIdents]

theorem multisetEntries_idents_sublist :
    List.Sublist ((multisetEntries s).map Prod.snd) ((schemaIdents s).map Prod.fst) := by
  simp only [multisetEntries, schemaIdents, List.map_flatMap]
  refine List.Sublist.flatMap_right _ fun f _ => ?_
  simp only [featureMultisetEntries, featureIdents, List.map_map, List.map_cons, List.map_append,
    List.map_flatMap]
  exact List.Sublist.cons _ ((List.sublist_append_right _ _).trans (List.sublist_append_right _ _))

/-- A namer that named a whole schema gave distinct identifiers to its enum
tables, to its commands and to its multisets. -/
theorem nameAll_idents_nodup (hn : nameAll s = .ok n) :
    ((enumEntries s).map Prod.snd).Nodup ∧ ((commandEntries s).map Prod.snd).Nodup ∧
      ((multisetEntries s).map Prod.snd).Nodup := by
  have hnd := (nameAll_ok_iff s).mp ⟨n, hn⟩
  exact ⟨enumEntries_idents_sublist.nodup hnd, commandEntries_idents_sublist.nodup hnd,
    multisetEntries_idents_sublist.nodup hnd⟩

end Idents

/-! ### Identifiers of compiled objects -/

section Named

variable {defs : List FeatureDef} {s : Compiled} {n : Namer}

theorem flatMap_featureMultisets (h : Resolves defs s) :
    s.features.flatMap (featureMultisets s) = s.multisets :=
  calc s.features.flatMap (featureMultisets s)
      = (s.features.flatMap (·.source.multisets)).filterMap (fun md => s.multiset? md.name) := by
        rw [List.filterMap_flatMap]
        rfl
    _ = (defs.flatMap (·.multisets)).filterMap (fun md => s.multiset? md.name) := by
        rw [← h.sources, List.flatMap_map]
    _ = s.multisets := h.filterMap_multiset?

theorem commandEntries_keys :
    (commandEntries s).map Prod.fst = (s.features.flatMap (·.commands)).map (·.desc.name) := by
  simp [commandEntries, featureCommandEntries, commandEntry, List.map_flatMap, Function.comp_def]

theorem multisetEntries_keys (h : Resolves defs s) :
    (multisetEntries s).map Prod.fst = s.multisets.map (·.decl.name) := by
  conv_rhs => rw [← flatMap_featureMultisets h]
  simp only [multisetEntries, featureMultisetEntries, List.map_flatMap, List.map_map]
  refine List.flatMap_congr fun f _ => List.map_congr_left fun m hm => ?_
  exact (h.names m (mem_multisets_of_mem_featureMultisets hm)).symm

theorem nameAll_enum (h : Resolves defs s) (hn : nameAll s = .ok n) {f : CompiledFeature}
    (hf : f ∈ s.features) {e : CompiledEnum} (he : e ∈ f.enums) :
    n.enums[f.source.name ++ "." ++ e.source.name]? =
      some (enumEntry f.source.name (Naming.goName f.source.name) e).2 :=
  (nameAll_maps hn).enums.getElem?_of_mem (by rw [enumEntries_keys h]; exact h.enumKeys)
    (List.mem_flatMap.mpr ⟨f, hf, List.mem_map.mpr ⟨e, he, rfl⟩⟩)

theorem nameAll_command (hc : compile defs = .ok s) (hn : nameAll s = .ok n)
    {f : CompiledFeature} (hf : f ∈ s.features) {c : CompiledCommand} (hcf : c ∈ f.commands) :
    n.commands[c.desc.name]? = some (commandIdent (Naming.goName f.source.name) c) :=
  (nameAll_maps hn).commands.getElem?_of_mem (by rw [commandEntries_keys]; exact compile_names_nodup hc)
    (List.mem_flatMap.mpr ⟨f, hf, List.mem_map.mpr ⟨c, hcf, rfl⟩⟩)

theorem nameAll_multiset (h : Resolves defs s) (hn : nameAll s = .ok n) {f : CompiledFeature}
    (hf : f ∈ s.features) {m : CompiledMultiset} (hm : m ∈ featureMultisets s f) :
    n.multisets[m.source.name]? = some (multisetIdent (Naming.goName f.source.name) m) :=
  (nameAll_maps hn).multisets.getElem?_of_mem
    (by rw [multisetEntries_keys h]; exact h.multisetNames_nodup)
    (List.mem_flatMap.mpr ⟨f, hf, List.mem_map.mpr ⟨m, hm, rfl⟩⟩)

/-- The identifiers the namer records for the compiled multisets, in order,
are those of the multiset entries. -/
theorem multisetIdents_eq (h : Resolves defs s) (hn : nameAll s = .ok n) :
    s.multisets.map (fun m => (n.multisets[m.source.name]?).getD "") =
      (multisetEntries s).map Prod.snd := by
  conv_lhs => rw [← flatMap_featureMultisets h]
  simp only [multisetEntries, featureMultisetEntries, List.map_flatMap, List.map_map]
  refine List.flatMap_congr fun f hf => List.map_congr_left fun m hm => ?_
  simp [nameAll_multiset h hn hf hm, multisetEntry]

end Named

/-! ### Plans -/

section Plans

variable {s : Compiled} {n : Namer}

theorem planFeature_eq_ok {f : CompiledFeature} {pkg : String} {p : FeaturePlan}
    (h : planFeature s n f pkg = .ok p) :
    p.enums = f.enums.map (planEnum n f.source.name) ∧
      List.Forall₂ (fun c cp => planCommand n f.source.name c = .ok cp) f.commands p.commands ∧
      List.Forall₂ (fun m mp => planMultiset n m = .ok mp) (featureMultisets s f) p.multisets := by
  unfold planFeature at h
  obtain ⟨ms, hms, h⟩ := Except.bind_eq_ok.mp h
  obtain ⟨cmds, hcmds, h⟩ := Except.bind_eq_ok.mp h
  cases h
  exact ⟨rfl, forall₂_of_mapM_eq_ok hcmds, forall₂_of_mapM_eq_ok hms⟩

theorem planCommand_ident {fname : String} {c : CompiledCommand} {cp : CommandPlan}
    (h : planCommand n fname c = .ok cp) : cp.ident = (n.commands[c.desc.name]?).getD "" := by
  unfold planCommand at h
  obtain ⟨args, -, h⟩ := Except.bind_eq_ok.mp h
  cases h
  rfl

/-- A multiset's plan, when it is not refused. -/
theorem planMultiset_eq_ok {m : CompiledMultiset} {mp : MultisetPlan}
    (h : planMultiset n m = .ok mp) :
    mp = { ident := (n.multisets[m.source.name]?).getD "", name := m.source.name,
           description := m.source.description,
           members := m.decl.members.map fun c => (n.commands[c.name]?).getD "" } := by
  unfold planMultiset at h
  split at h
  · cases h
  · cases h
    rfl

theorem planEnum_table (fname : String) (e : CompiledEnum) :
    (planEnum n fname e).table = e.source.toTable := by
  simp [planEnum, EnumPlan.table, EnumDef.toTable, Int32.ofInt_toInt]

end Plans

/-! ### Variables of the generated files -/

section Generated

variable {defs : List FeatureDef} {s : Compiled} {n : Namer} {pkg : String}
  {plans : List FeaturePlan}

theorem plans_forall₂ (hp : s.features.mapM (fun f => planFeature s n f pkg) = .ok plans) :
    List.Forall₂ (fun f p => f ∈ s.features ∧ planFeature s n f pkg = .ok p) s.features plans :=
  (List.forall₂_and_left _ _).mpr ⟨fun _ hf => hf, forall₂_of_mapM_eq_ok hp⟩

theorem bindings_enums (h : Resolves defs s) (hn : nameAll s = .ok n)
    (hp : s.features.mapM (fun f => planFeature s n f pkg) = .ok plans) :
    (bindings plans).enums = s.features.flatMap fun f => f.enums.map fun e =>
      ((enumEntry f.source.name (Naming.goName f.source.name) e).2, e.table) := by
  refine flatMap_eq_of_forall₂ ((plans_forall₂ hp).imp fun f p ⟨hf, hfp⟩ => ?_)
  rw [(planFeature_eq_ok hfp).1, List.map_map]
  refine List.map_congr_left fun e he => ?_
  have hident : (planEnum n f.source.name e).ident =
      (enumEntry f.source.name (Naming.goName f.source.name) e).2 := by
    simp only [planEnum, nameAll_enum h hn hf he, Option.getD_some]
  simp [hident, planEnum_table, h.tables f hf e he]

theorem registryMultisets_eq_map (h : Resolves defs s)
    (hp : s.features.mapM (fun f => planFeature s n f pkg) = .ok plans) :
    registryMultisets plans = s.multisets.map fun m =>
      { ident := (n.multisets[m.source.name]?).getD "", name := m.source.name,
        description := m.source.description,
        members := m.decl.members.map fun c => (n.commands[c.name]?).getD "" } := by
  rw [registryMultisets_eq, ← flatMap_featureMultisets h, List.map_flatMap]
  exact flatMap_eq_of_forall₂ ((plans_forall₂ hp).imp fun _ _ ⟨_, hfp⟩ =>
    eq_map_of_forall₂ ((planFeature_eq_ok hfp).2.2.imp fun _ _ hm => planMultiset_eq_ok hm))

/-- The multiset variables of the generated files stand for the references
to the compiled multisets, each under the identifier of its multiset. -/
theorem bindings_multisets (h : Resolves defs s)
    (hp : s.features.mapM (fun f => planFeature s n f pkg) = .ok plans) :
    (bindings plans).multisets =
      s.multisets.map fun m => ((n.multisets[m.source.name]?).getD "", m.decl.ref) :=
  calc (bindings plans).multisets
      = s.multisets.zipIdx.map fun p =>
          ((n.multisets[p.1.source.name]?).getD "", (⟨p.1.source.name, p.2⟩ : MultisetRef)) := by
        simp [bindings, registryMultisets_eq_map h hp, List.zipIdx_map]
    _ = s.multisets.map fun m =>
          ((n.multisets[m.source.name]?).getD "", (⟨m.source.name, m.decl.key⟩ : MultisetRef)) :=
        h.map_zipIdx fun m i =>
          ((n.multisets[m.source.name]?).getD "", (⟨m.source.name, i⟩ : MultisetRef))
    _ = _ := List.map_congr_left fun m hm => by rw [MultisetDecl.ref, h.names m hm]

/-- The multisets that `Multisets` lists denote the compiled ones, when the
variable of each member stands for that member. -/
theorem registryDrafts_eq (h : Resolves defs s)
    (hp : s.features.mapM (fun f => planFeature s n f pkg) = .ok plans)
    {vars : List (String × Command)}
    (hvars : ∀ m ∈ s.multisets, ∀ x ∈ m.decl.members,
      vars.lookup ((n.commands[x.name]?).getD "") = some x) :
    registryDrafts vars plans = s.multisets.map (·.decl.toDraft) :=
  calc registryDrafts vars plans
      = s.multisets.zipIdx.map fun p => (⟨p.1.source.name, p.2,
          p.1.decl.members.map fun x => vars.lookup ((n.commands[x.name]?).getD "")⟩ :
            MultisetDraft) := by
        simp [registryDrafts, registryMultisets_eq_map h hp, List.zipIdx_map, MultisetPlan.draft]
    _ = s.multisets.map fun m => (⟨m.source.name, m.decl.key,
          m.decl.members.map fun x => vars.lookup ((n.commands[x.name]?).getD "")⟩ :
            MultisetDraft) :=
        h.map_zipIdx fun m i => (⟨m.source.name, i,
          m.decl.members.map fun x => vars.lookup ((n.commands[x.name]?).getD "")⟩ : MultisetDraft)
    _ = _ := List.map_congr_left fun m hm => by
        simp only [MultisetDecl.toDraft, h.names m hm, List.map_congr_left (hvars m hm)]

/-- Every variable of the generated files stands for the declaration it was
named for. -/
theorem bindings_resolved (hc : compile defs = .ok s) (hn : nameAll s = .ok n)
    (hp : s.features.mapM (fun f => planFeature s n f pkg) = .ok plans) :
    Resolved n (bindings plans) (declaredEnums defs) (refsOf (declaredMultisets defs)) := by
  have h := compile_resolves hc
  obtain ⟨hE, -, hM⟩ := nameAll_idents_nodup hn
  constructor
  · intro key ed hl
    -- the enum declared under `key` is compiled in the feature that declares it
    obtain ⟨d, hd, e, he, rfl, rfl⟩ :
        ∃ d ∈ defs, ∃ e ∈ d.enums, key = d.name ++ "." ++ e.name ∧ ed = e := by
      simpa [declaredEnums, eq_comm] using mem_of_lookup_eq_some hl
    obtain ⟨f, hf, rfl⟩ := h.feature_of_mem hd
    obtain ⟨ce, hce, rfl⟩ := List.mem_map.mp ((h.enums f hf).symm ▸ he)
    refine ⟨_, nameAll_enum h hn hf hce, append_ne_empty (by decide : "Enum" ≠ ""), ?_⟩
    rw [bindings_enums h hn hp, ← h.tables f hf ce hce]
    refine lookup_of_mem ?_ (List.mem_flatMap.mpr ⟨f, hf, List.mem_map.mpr ⟨ce, hce, rfl⟩⟩)
    simpa [enumEntries, featureEnumEntries, List.map_flatMap, Function.comp_def] using hE
  · intro r hr
    rw [← h.refs] at hr
    obtain ⟨m, hm, rfl⟩ := List.mem_map.mp hr
    obtain ⟨f, hf, hmf⟩ := exists_mem_featureMultisets h hm
    have hident := nameAll_multiset h hn hf hmf
    refine ⟨multisetIdent (Naming.goName f.source.name) m, ?_,
      append_ne_empty (by decide : "Multiset" ≠ ""), ?_⟩
    · rw [MultisetDecl.ref, h.names m hm]
      exact hident
    · rw [bindings_multisets h hp]
      refine lookup_of_mem ?_ (List.mem_map.mpr ⟨m, hm, by rw [hident, Option.getD_some]⟩)
      rw [List.map_map]
      simpa [← multisetIdents_eq h hn, Function.comp_def] using hM

/-- The command variables that `Commands` lists are the compiled commands, in
order, each under the identifier of its command. -/
theorem commandVars_eq (hc : compile defs = .ok s) (hn : nameAll s = .ok n)
    (hp : s.features.mapM (fun f => planFeature s n f pkg) = .ok plans) :
    commandVars plans = some (s.features.flatMap fun f => f.commands.map fun c =>
      (commandIdent (Naming.goName f.source.name) c, c.desc)) := by
  have h := compile_resolves hc
  have hR := bindings_resolved hc hn hp
  refine mapM_eq_some_of_forall₂ (forall₂_flatMap ((plans_forall₂ hp).flip.imp fun p f ⟨hf, hfp⟩ => ?_))
  have hcmds := (List.forall₂_and_left _ _).mpr ⟨fun c hc => hc, (planFeature_eq_ok hfp).2.1⟩
  refine List.forall₂_map_right_iff.mpr (hcmds.flip.imp fun cp c ⟨hcf, hcp⟩ => ?_)
  -- the command was compiled from one of the feature's definitions
  obtain ⟨k, -, hk⟩ := exists_of_forall₂_mem_right (h.commands f hf) hcf
  rw [(planCommand_denote hR hk hcp).1, planCommand_ident hcp, nameAll_command hc hn hf hcf]
  rfl

theorem commandVars_idents_nodup (hn : nameAll s = .ok n) :
    ((s.features.flatMap fun f => f.commands.map fun c =>
      (commandIdent (Naming.goName f.source.name) c, c.desc)).map Prod.fst).Nodup := by
  simpa [commandEntries, featureCommandEntries, commandEntry, List.map_flatMap, Function.comp_def]
    using (nameAll_idents_nodup hn).2.1

end Generated

/-! ### The generated descriptors -/

/-- What the files generated from the plans `plans` declare, for the compiled
schema `s`: per feature, the enum tables and the commands of `s`, each command
literal denoting the compiled command and its identity constant the text of
that command's identity; each variable once; the command variables of the
registry in schema order, and its multisets listing the variables of their
members in order; and the table `NewTable` builds, which is the compiled
table. -/
structure DeclaresCompiled (s : Compiled) (plans : List FeaturePlan) : Prop where
  features : List.Forall₂ (fun f p => p.enums.map (·.table) = f.enums.map (·.table) ∧
    List.Forall₂ (fun c cp => cp.denote (bindings plans) = some c.desc ∧
      cp.identity = c.desc.identity.text) f.commands p.commands) s.features plans
  distinct : ((bindings plans).enums.map Prod.fst).Nodup ∧
    ((bindings plans).multisets.map Prod.fst).Nodup
  registry : ∃ vars, commandVars plans = some vars ∧ (vars.map Prod.fst).Nodup ∧
    vars.map Prod.snd = (s.features.flatMap (·.commands)).map (·.desc) ∧
    registryDrafts vars plans = s.multisets.map (·.decl.toDraft)
  table : generatedTable plans = some (.ok s.table)

variable {defs : List FeatureDef} {s : Compiled}

/-- For a schema that compiles and generates, the plans its files are written
from declare its descriptors. -/
theorem generated_descriptors_denote (hc : compile defs = .ok s) {pkg : String}
    {files : List SourceFile} (hg : generate s pkg = .ok files) :
    ∃ n plans, nameAll s = .ok n ∧ s.features.mapM (fun f => planFeature s n f pkg) = .ok plans ∧
      DeclaresCompiled s plans := by
  have h := compile_resolves hc
  unfold generate at hg
  obtain ⟨n, hn, hg⟩ := Except.bind_eq_ok.mp hg
  obtain ⟨plans, hp, -⟩ := Except.bind_eq_ok.mp hg
  have hR := bindings_resolved hc hn hp
  obtain ⟨hE, -, hM⟩ := nameAll_idents_nodup hn
  set vars := s.features.flatMap fun f => f.commands.map fun c =>
    (commandIdent (Naming.goName f.source.name) c, c.desc) with hvars_def
  have hvars : vars.map Prod.snd = (s.features.flatMap (·.commands)).map (·.desc) := by
    simp [hvars_def, List.map_flatMap, Function.comp_def]
  -- the variable of each member of a compiled multiset stands for that member
  have hmembers : ∀ m ∈ s.multisets, ∀ x ∈ m.decl.members,
      vars.lookup ((n.commands[x.name]?).getD "") = some x := by
    intro m hm x hx
    obtain ⟨cc, hcc, rfl⟩ := compile_members hc m hm x hx
    obtain ⟨f, hf, hcf⟩ := List.mem_flatMap.mp hcc
    rw [nameAll_command hc hn hf hcf, Option.getD_some]
    exact lookup_of_mem (commandVars_idents_nodup hn)
      (List.mem_flatMap.mpr ⟨f, hf, List.mem_map.mpr ⟨cc, hcf, rfl⟩⟩)
  have hdrafts := registryDrafts_eq h hp hmembers
  refine ⟨n, plans, hn, hp, ⟨?_, ?_, ⟨vars, commandVars_eq hc hn hp, commandVars_idents_nodup hn,
    hvars, hdrafts⟩, ?_⟩⟩
  · refine (plans_forall₂ hp).imp fun f p ⟨hf, hfp⟩ => ⟨?_, ?_⟩
    · rw [(planFeature_eq_ok hfp).1, List.map_map]
      exact List.map_congr_left fun e he => (planEnum_table _ e).trans (h.tables f hf e he).symm
    · have hcmds := (List.forall₂_and_left _ _).mpr ⟨fun c hc => hc, (planFeature_eq_ok hfp).2.1⟩
      refine hcmds.imp fun c cp ⟨hcf, hcp⟩ => ?_
      obtain ⟨k, -, hk⟩ := exists_of_forall₂_mem_right (h.commands f hf) hcf
      exact planCommand_denote hR hk hcp
  · refine ⟨?_, ?_⟩
    · rw [bindings_enums h hn hp]
      simpa [enumEntries, featureEnumEntries, List.map_flatMap, Function.comp_def] using hE
    · rw [bindings_multisets h hp, List.map_map]
      simpa [← multisetIdents_eq h hn, Function.comp_def] using hM
  · -- `NewTable` receives the compiled commands and multisets
    have hcmds : vars.map (fun v => some v.2) =
        (s.features.flatMap (·.commands)).map fun c => some c.desc := by
      simpa [List.map_map, Function.comp_def] using congrArg (List.map some) hvars
    rw [generatedTable, commandVars_eq hc hn hp]
    show some (Table.build (registryDrafts vars plans) (vars.map fun v => some v.2)
      ((registryDrafts vars plans).map some)) = _
    rw [hdrafts, hcmds, compile_build hc]

/-- An instance: the schema of two commands whose multiset arguments carry
each other compiles and generates, and its files declare its descriptors. -/
theorem generated_descriptors_cycle :
    ∃ files, compile [cycleFeature] = .ok cycleCompiled ∧
      generate cycleCompiled "features" = .ok files ∧
      ∃ n plans, nameAll cycleCompiled = .ok n ∧
        cycleCompiled.features.mapM (fun f => planFeature cycleCompiled n f "features") = .ok plans ∧
        DeclaresCompiled cycleCompiled plans := by
  obtain ⟨files, hg⟩ := generate_cycle_ok
  exact ⟨files, compile_cycle, hg, generated_descriptors_denote compile_cycle hg⟩

end DroneProtocol.Codegen
