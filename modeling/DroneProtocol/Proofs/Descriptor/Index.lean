import DroneProtocol.Proofs.Descriptor.Filing
import DroneProtocol.Proofs.Descriptor.Registration

/-! # A table indexes its commands

A built table is a consistent two-way index of its commands
(`build_index_consistent`). The invariant is carried level by level, as the
table stores it: classes of a feature (`ClassesIndex`), then features
(`FeaturesIndex`). -/

namespace DroneProtocol

namespace Table

/-- How the classes `ks` of one feature index the commands `cs` of that
feature: one class a name and one an id, each holding exactly the commands
whose path names it, with its class id and its default flag, no two of them
with one short name. -/
structure ClassesIndex (cs : List Command) (ks : List ClassInfo) : Prop where
  names : (ks.map (·.name)).Nodup
  ids : (ks.map (·.id)).Nodup
  mem_commands : ∀ k ∈ ks, ∀ c, c ∈ k.commands ↔ c ∈ cs ∧ c.path.2.1 = k.name
  command_ids : ∀ k ∈ ks, ∀ c ∈ k.commands, c.cls = k.id ∧ c.classless = k.isDefault
  filed : ∀ c ∈ cs, ∃ k ∈ ks, c ∈ k.commands
  inhabited : ∀ k ∈ ks, k.commands ≠ []
  shortNames : ∀ k ∈ ks, (k.commands.map Command.shortName).Nodup

theorem ClassesIndex.nil : ClassesIndex [] [] := by
  constructor <;> simp

section ClassStep

variable {cs : List Command} {F : FeatureInfo} {a : Command} {kname short : String}
  {isDefault : Bool} {K : ClassInfo}

/-- The class a command joins carries the command's name, id and default
flag, holds exactly the commands of that name so far, and has an id no class
of another name has. -/
theorem ClassesIndex.classFor_spec (h : ClassesIndex cs F.classes)
    (hK : classFor F a kname isDefault = .ok K) :
    K.name = kname ∧ K.id = a.cls ∧ K.isDefault = isDefault ∧
      (∀ c, c ∈ K.commands ↔ c ∈ cs ∧ c.path.2.1 = kname) ∧
      (∀ k ∈ F.classes, k.name ≠ kname → k.id ≠ a.cls) ∧
      (∀ c ∈ K.commands, c.cls = K.id ∧ c.classless = K.isDefault) ∧
      (K.commands.map Command.shortName).Nodup := by
  rcases classFor_eq_ok.mp hK with ⟨hfound, hid, hdefault⟩ | ⟨hnone, hidnone, rfl⟩
  · obtain ⟨hK, hname⟩ := (List.find?_key_eq_some h.names).mp hfound
    refine ⟨hname, hid, hdefault, fun c => hname ▸ h.mem_commands K hK c, ?_,
      h.command_ids K hK, h.shortNames K hK⟩
    intro k hk hkname hkid
    exact hkname (hname ▸ congrArg (·.name)
      (List.inj_on_of_nodup_map h.ids hk hK (hkid.trans hid.symm)))
  · refine ⟨rfl, rfl, rfl, fun c => ?_, fun k hk _ => ?_, by simp, by simp⟩
    · -- a command of that class name would have been filed in a class of that name
      simp only [List.not_mem_nil, false_iff, not_and]
      intro hc hname
      obtain ⟨k, hk, hck⟩ := h.filed c hc
      have hkname := ((h.mem_commands k hk c).mp hck).2
      exact absurd hnone (by
        rw [FeatureInfo.cls?, (List.find?_key_eq_some h.names).mpr ⟨hk, hkname.symm.trans hname⟩]
        simp)
    · simpa using List.find?_eq_none.mp hidnone k hk

/-- Filing a command in the class its name gives keeps the classes an index
of the commands of the feature, the command now among them. -/
theorem ClassesIndex.file (h : ClassesIndex cs F.classes)
    (hK : classFor F a kname isDefault = .ok K) (hshort : K.command? short = none)
    (hkname : a.path.2.1 = kname) (hdefault : a.classless = isDefault)
    (hshortName : a.shortName = short) :
    ClassesIndex (cs ++ [a]) (refile (·.name) { K with commands := K.commands ++ [a] } F.classes) := by
  obtain ⟨hname, hid, hdef, hmem, hother, hids, hshorts⟩ := h.classFor_spec hK
  have hmem' : ∀ {k}, k ∈ refile (·.name) { K with commands := K.commands ++ [a] } F.classes ↔
      k = { K with commands := K.commands ++ [a] } ∨ k ∈ F.classes ∧ k.name ≠ kname := by
    intro k
    rw [mem_refile h.names, hname]
  constructor
  · exact nodup_map_refile h.names h.names fun _ _ hne => hne
  · exact nodup_map_refile h.names h.ids fun k hk hne => hid ▸ hother k hk (hname ▸ hne)
  · intro k hk c
    rcases hmem'.mp hk with rfl | ⟨hk, hkne⟩
    · simp only [List.mem_append, List.mem_singleton, hmem, hname]
      constructor
      · rintro (⟨hc, hcname⟩ | rfl)
        exacts [⟨.inl hc, hcname⟩, ⟨.inr rfl, hkname⟩]
      · rintro ⟨hc | rfl, hcname⟩
        exacts [.inl ⟨hc, hcname⟩, .inr rfl]
    · rw [h.mem_commands k hk c, List.mem_append, List.mem_singleton]
      constructor
      · rintro ⟨hc, hcname⟩
        exact ⟨.inl hc, hcname⟩
      · rintro ⟨hc | rfl, hcname⟩
        exacts [⟨hc, hcname⟩, absurd (hkname.symm.trans hcname).symm hkne]
  · intro k hk c hc
    rcases hmem'.mp hk with rfl | ⟨hk, -⟩
    · rcases List.mem_append.mp hc with hc | hc
      · exact hids c hc
      · rw [List.mem_singleton.mp hc]
        exact ⟨hid.symm, hdefault.trans hdef.symm⟩
    · exact h.command_ids k hk c hc
  · intro c hc
    rcases List.mem_append.mp hc with hc | hc
    · obtain ⟨k, hk, hck⟩ := h.filed c hc
      by_cases hkname' : k.name = kname
      · refine ⟨_, hmem'.mpr (.inl rfl), List.mem_append_left _ ((hmem c).mpr ⟨hc, ?_⟩)⟩
        exact ((h.mem_commands k hk c).mp hck).2.trans hkname'
      · exact ⟨k, hmem'.mpr (.inr ⟨hk, hkname'⟩), hck⟩
    · rw [List.mem_singleton.mp hc]
      exact ⟨_, hmem'.mpr (.inl rfl), List.mem_append_right _ (List.mem_singleton_self a)⟩
  · intro k hk
    rcases hmem'.mp hk with rfl | ⟨hk, -⟩
    · simp
    · exact h.inhabited k hk
  · intro k hk
    rcases hmem'.mp hk with rfl | ⟨hk, -⟩
    · rw [List.map_append, List.nodup_append]
      refine ⟨hshorts, List.nodup_singleton _, ?_⟩
      -- no command of the class has the new command's short name
      intro s hs s' hs' hss'
      obtain ⟨c, hc, rfl⟩ := List.mem_map.mp hs
      rw [List.map_singleton, List.mem_singleton] at hs'
      have hnot := List.find?_eq_none.mp hshort c hc
      simp [hss', hs', hshortName] at hnot
    · exact h.shortNames k hk

end ClassStep

/-- How the features `fs` of a table index the commands `cs`: one feature a
name and one an id, the one the commands of its name carry, and each
feature's classes indexing the commands of that feature. -/
structure FeaturesIndex (cs : List Command) (fs : List FeatureInfo) : Prop where
  names : (fs.map (·.name)).Nodup
  ids : (fs.map (·.id)).Nodup
  classes : ∀ f ∈ fs, ClassesIndex (cs.filter (·.path.1 == f.name)) f.classes
  feature_ids : ∀ f ∈ fs, ∀ c ∈ cs, c.path.1 = f.name → c.feature = f.id
  filed : ∀ c ∈ cs, ∃ f ∈ fs, c.path.1 = f.name
  inhabited : ∀ f ∈ fs, f.classes ≠ []

theorem FeaturesIndex.nil : FeaturesIndex [] [] := by
  constructor <;> simp

section FeatureStep

variable {cs : List Command} {t : Table} {a : Command} {fname kname short : String}
  {isDefault : Bool} {F : FeatureInfo} {K : ClassInfo}

/-- The feature a command joins carries the command's name and feature id,
its classes index the commands of that name so far, and no feature of
another name has its id. -/
theorem FeaturesIndex.featureFor_spec (h : FeaturesIndex cs t.features)
    (hF : t.featureFor a fname = .ok F) :
    F.name = fname ∧ F.id = a.feature ∧ ClassesIndex (cs.filter (·.path.1 == fname)) F.classes ∧
      (∀ c ∈ cs, c.path.1 = fname → c.feature = F.id) ∧
      (∀ f ∈ t.features, f.name ≠ fname → f.id ≠ a.feature) := by
  rcases featureFor_eq_ok.mp hF with ⟨hfound, hid⟩ | ⟨hnone, hidnone, rfl⟩
  · obtain ⟨hF, hname⟩ := (List.find?_key_eq_some h.names).mp hfound
    refine ⟨hname, hid, hname ▸ h.classes F hF,
      fun c hc hcname => h.feature_ids F hF c hc (hcname.trans hname.symm), ?_⟩
    intro f hf hfname hfid
    exact hfname (hname ▸ congrArg (·.name)
      (List.inj_on_of_nodup_map h.ids hf hF (hfid.trans hid.symm)))
  · -- a command of that feature name would have been filed in a feature of that name
    have hnone' : ∀ c ∈ cs, c.path.1 ≠ fname := by
      intro c hc hcname
      obtain ⟨f, hf, hfname⟩ := h.filed c hc
      exact List.find?_eq_none.mp hnone f hf (by simp [← hfname, hcname])
    have hfilter : cs.filter (·.path.1 == fname) = [] :=
      List.filter_eq_nil_iff.mpr fun c hc => by simpa using hnone' c hc
    refine ⟨rfl, rfl, hfilter ▸ ClassesIndex.nil, fun c hc hcname => absurd hcname (hnone' c hc),
      fun f hf _ => ?_⟩
    simpa using List.find?_eq_none.mp hidnone f hf

/-- Filing a command in its feature keeps the features an index of the
commands, the command now among them. -/
theorem FeaturesIndex.file (h : FeaturesIndex cs t.features) (hF : t.featureFor a fname = .ok F)
    (hK : classFor F a kname isDefault = .ok K) (hshort : K.command? short = none)
    (hplace : place a = .ok (fname, kname, short, isDefault)) :
    FeaturesIndex (cs ++ [a])
      (refile (·.name)
        { F with classes := refile (·.name) { K with commands := K.commands ++ [a] } F.classes }
        t.features) := by
  obtain ⟨hname, hid, hclasses, hids, hother⟩ := h.featureFor_spec hF
  have hpath := place_path hplace
  have hfeature : a.path.1 = fname := by rw [hpath]
  have hfilter : ∀ f, (cs ++ [a]).filter (·.path.1 == f) =
      cs.filter (·.path.1 == f) ++ if fname = f then [a] else [] := by
    intro f
    by_cases hf : fname = f <;> simp [List.filter_append, hfeature, hf]
  have hmem' : ∀ {f}, f ∈ refile (·.name)
      { F with classes := refile (·.name) { K with commands := K.commands ++ [a] } F.classes }
      t.features ↔
      f = { F with classes := refile (·.name) { K with commands := K.commands ++ [a] } F.classes } ∨
        f ∈ t.features ∧ f.name ≠ fname := by
    intro f
    rw [mem_refile h.names, hname]
  constructor
  · exact nodup_map_refile h.names h.names fun _ _ hne => hne
  · exact nodup_map_refile h.names h.ids fun f hf hne => hid ▸ hother f hf (hname ▸ hne)
  · intro f hf
    rcases hmem'.mp hf with rfl | ⟨hf, hfne⟩
    · rw [hname, hfilter, if_pos rfl]
      exact hclasses.file hK hshort (by rw [hpath]) (place_classless hplace)
        (place_shortName hplace)
    · rw [hfilter, if_neg (Ne.symm hfne), List.append_nil]
      exact h.classes f hf
  · intro f hf c hc hcname
    rcases hmem'.mp hf with rfl | ⟨hf, hfne⟩
    · rcases List.mem_append.mp hc with hc | hc
      · exact hids c hc (hcname.trans hname)
      · rw [List.mem_singleton.mp hc]
        exact hid.symm
    · rcases List.mem_append.mp hc with hc | hc
      · exact h.feature_ids f hf c hc hcname
      · rw [List.mem_singleton.mp hc] at hcname
        exact absurd (hcname.symm.trans hfeature) hfne
  · intro c hc
    rcases List.mem_append.mp hc with hc | hc
    · obtain ⟨f, hf, hfname⟩ := h.filed c hc
      by_cases hfname' : f.name = fname
      · exact ⟨_, hmem'.mpr (.inl rfl), hfname.trans (hfname'.trans hname.symm)⟩
      · exact ⟨f, hmem'.mpr (.inr ⟨hf, hfname'⟩), hfname⟩
    · rw [List.mem_singleton.mp hc]
      exact ⟨_, hmem'.mpr (.inl rfl), hfeature.trans hname.symm⟩
  · intro f hf
    rcases hmem'.mp hf with rfl | ⟨hf, -⟩
    · exact List.ne_nil_of_mem ((mem_refile hclasses.names).mpr (.inl rfl))
    · exact h.inhabited f hf

end FeatureStep

/-- How a table indexes the commands `cs` filed in it: its commands are
those, with distinct identities and names it accepts, and its features index
them. -/
structure Indexes (cs : List Command) (t : Table) : Prop where
  commands : t.commands.Perm cs
  identities : (cs.map Command.identity).Nodup
  placed : ∀ c ∈ cs, ∃ p, place c = .ok p
  features : FeaturesIndex cs t.features

theorem Indexes.empty : Indexes [] empty :=
  ⟨List.Perm.refl _, List.nodup_nil, by simp, FeaturesIndex.nil⟩

/-- Adding a command keeps the table an index of what it has filed, the
command now among it. -/
theorem Indexes.add {cs : List Command} {t t' : Table} {a : Command} (h : Indexes cs t)
    (hadd : t.add a = .ok t') : Indexes (cs ++ [a]) t' := by
  obtain ⟨hfresh, fname, kname, short, isDefault, F, K, hplace, hF, hK, hshort, rfl⟩ :=
    add_eq_ok_iff.mp hadd
  refine ⟨h.commands.append_right [a], ?_, ?_, h.features.file hF hK hshort hplace⟩
  · rw [List.map_append, List.nodup_append]
    refine ⟨h.identities, List.nodup_singleton _, ?_⟩
    intro i hi j hj hij
    obtain ⟨c, hc, rfl⟩ := List.mem_map.mp hi
    rw [List.map_singleton, List.mem_singleton] at hj
    exact hfresh c (h.commands.mem_iff.mpr hc) (hij.trans hj)
  · intro c hc
    rcases List.mem_append.mp hc with hc | hc
    · exact h.placed c hc
    · exact ⟨_, List.mem_singleton.mp hc ▸ hplace⟩

section Build

variable {drafts : List MultisetDraft} {cs : List Command} {t t' : Table}

theorem Indexes.of_eq (h : Indexes cs t) (hc : t'.commands = t.commands)
    (hf : t'.features = t.features) : Indexes cs t' :=
  ⟨hc ▸ h.commands, h.identities, h.placed, hf ▸ h.features⟩

theorem addMultiset_keeps {ms : MultisetDraft} (h : addMultiset drafts t ms = .ok t') :
    t'.commands = t.commands ∧ t'.features = t.features := by
  unfold addMultiset at h
  cases hprev : t.multisets.find? (·.name == ms.name) with
  | some prev =>
    simp only [hprev] at h
    split at h
    · cases h
      exact ⟨rfl, rfl⟩
    · simp at h
  | none =>
    simp only [hprev] at h
    split at h
    · simp at h
    · obtain ⟨members, -, h⟩ := Except.bind_eq_ok.mp h
      cases h
      exact ⟨rfl, rfl⟩

theorem addExtra_keeps {o : Option MultisetDraft}
    (h : (match o with
      | none => throw TableError.missingMultiset
      | some ms => addMultiset drafts t ms) = .ok t') :
    t'.commands = t.commands ∧ t'.features = t.features := by
  cases o with
  | none => simp at h
  | some ms => exact addMultiset_keeps h

theorem foldlM_keeps {α : Type} {f : Table → α → Except TableError Table}
    (step : ∀ {t t' : Table} {a : α}, f t a = .ok t' →
      t'.commands = t.commands ∧ t'.features = t.features)
    {l : List α} {t t' : Table} (h : l.foldlM f t = .ok t') :
    t'.commands = t.commands ∧ t'.features = t.features :=
  foldlM_inv (I := fun t' => t'.commands = t.commands ∧ t'.features = t.features)
    (fun hi hs => ⟨(step hs).1.trans hi.1, (step hs).2.trans hi.2⟩) ⟨rfl, rfl⟩ h

theorem Indexes.file_command {c : Option Command} (h : Indexes cs t)
    (hc : addCommand drafts t c = .ok t') : ∃ cmd, c = some cmd ∧ Indexes (cs ++ [cmd]) t' := by
  cases c with
  | none => simp [addCommand] at hc
  | some cmd =>
    simp only [addCommand] at hc
    obtain ⟨t₁, hadd, hc⟩ := Except.bind_eq_ok.mp hc
    obtain ⟨⟨⟩, -, hc⟩ := Except.bind_eq_ok.mp hc
    obtain ⟨hcmds, hfeatures⟩ := foldlM_keeps addMultiset_keeps hc
    exact ⟨cmd, rfl, (h.add hadd).of_eq hcmds hfeatures⟩

theorem Indexes.foldlM_addCommand {cmds : List (Option Command)} {cs : List Command}
    {t t' : Table} (h : Indexes cs t) (hfold : cmds.foldlM (addCommand drafts) t = .ok t') :
    ∃ cs', cmds = cs'.map some ∧ Indexes (cs ++ cs') t' := by
  -- the commands folded so far are all present, and filed after `cs`
  refine foldlM_run_nil (I := fun p t => ∃ cs', p = cs'.map some ∧ Indexes (cs ++ cs') t)
    ?_ ⟨[], rfl, by simpa using h⟩ hfold
  rintro p c t₁ t₂ ⟨cs', rfl, hindex⟩ hstep
  obtain ⟨cmd, rfl, hindex'⟩ := hindex.file_command hstep
  exact ⟨cs' ++ [cmd], by simp, by simpa using hindex'⟩

theorem build_indexes {cmds : List (Option Command)} {extra : List (Option MultisetDraft)}
    (h : build drafts cmds extra = .ok t) :
    ∃ cs t₀, cmds = cs.map some ∧ Indexes cs t₀ ∧ t = t₀.sorted := by
  obtain ⟨t₁, h₁, hrest⟩ := Except.bind_eq_ok.mp h
  obtain ⟨t₂, h₂, hsorted⟩ := Except.bind_eq_ok.mp hrest
  obtain ⟨cs, rfl, hindex⟩ := Indexes.empty.foldlM_addCommand h₁
  have hkeep := foldlM_keeps addExtra_keeps h₂
  rw [List.nil_append] at hindex
  exact ⟨cs, { t₂ with declarations := drafts.filterMap (·.decl?) }, rfl,
    hindex.of_eq hkeep.1 hkeep.2, (Except.ok.inj hsorted).symm⟩

theorem build_declarations {cmds : List (Option Command)} {extra : List (Option MultisetDraft)}
    (h : build drafts cmds extra = .ok t) : t.declarations = drafts.filterMap (·.decl?) := by
  obtain ⟨t₁, -, hrest⟩ := Except.bind_eq_ok.mp h
  obtain ⟨t₂, -, hsorted⟩ := Except.bind_eq_ok.mp hrest
  cases hsorted
  rfl

end Build

section Sorting

variable {α β : Type} [LE β] [LT β] [Std.IsLinearOrder β] [Std.LawfulOrderLT β] [DecidableLE β]

theorem pairwise_mergeSort_lt {key : α → β} {l : List α} (hnd : (l.map key).Nodup) :
    (l.mergeSort fun a b => key a ≤ key b).Pairwise fun a b => key a < key b := by
  have hle : (l.mergeSort fun a b => key a ≤ key b).Pairwise
      fun a b => decide (key a ≤ key b) = true :=
    List.pairwise_mergeSort
      (fun a b c hab hbc => by simpa using Std.le_trans (by simpa using hab) (by simpa using hbc))
      (fun a b => by simpa using Std.le_total) l
  have hne : (l.mergeSort fun a b => key a ≤ key b).Pairwise fun a b => key a ≠ key b :=
    List.pairwise_map.mp (((List.mergeSort_perm l _).map key).nodup_iff.mpr hnd)
  refine (hle.and hne).imp fun ⟨hab, hne⟩ => ?_
  rw [Std.lt_iff_le_and_not_ge]
  exact ⟨by simpa using hab, fun hba => hne (Std.le_antisymm (by simpa using hab) hba)⟩

end Sorting

theorem Identity.value_injective : Function.Injective Identity.value := by
  rintro ⟨f₁, c₁, n₁⟩ ⟨f₂, c₂, n₂⟩ h
  have h24 : Nat.pow 2 24 = 16777216 := rfl
  have h16 : Nat.pow 2 16 = 65536 := rfl
  simp only [Identity.value, h24, h16] at h
  have := f₁.toNat_lt; have := f₂.toNat_lt; have := c₁.toNat_lt; have := c₂.toNat_lt
  have := n₁.toNat_lt; have := n₂.toNat_lt
  have hf : f₁.toNat = f₂.toNat := by omega
  have hc : c₁.toNat = c₂.toNat := by omega
  have hn : n₁.toNat = n₂.toNat := by omega
  simp [UInt8.toNat_inj.mp hf, UInt8.toNat_inj.mp hc, UInt16.toNat_inj.mp hn]

section Sorted

variable {cs : List Command}

/-- Sorting classes by id, and each class's commands by number, keeps them an
index. -/
theorem ClassesIndex.sort {ks : List ClassInfo} (h : ClassesIndex cs ks) :
    ClassesIndex cs ((ks.mergeSort fun a b => a.id ≤ b.id).map fun k =>
      { k with commands := k.commands.mergeSort fun a b => a.id ≤ b.id }) := by
  have hmem : ∀ {k : ClassInfo}, k ∈ (ks.mergeSort fun a b => a.id ≤ b.id).map (fun k =>
      { k with commands := k.commands.mergeSort fun a b => a.id ≤ b.id }) ↔
      ∃ k₀ ∈ ks, { k₀ with commands := k₀.commands.mergeSort fun a b => a.id ≤ b.id } = k := by
    intro k
    simp only [List.mem_map, List.mem_mergeSort]
  constructor
  · rw [List.map_map]
    exact ((List.mergeSort_perm ks _).map _).nodup_iff.mpr h.names
  · rw [List.map_map]
    exact ((List.mergeSort_perm ks _).map _).nodup_iff.mpr h.ids
  · intro k hk c
    obtain ⟨k₀, hk₀, rfl⟩ := hmem.mp hk
    simpa using h.mem_commands k₀ hk₀ c
  · intro k hk c hc
    obtain ⟨k₀, hk₀, rfl⟩ := hmem.mp hk
    exact h.command_ids k₀ hk₀ c (List.mem_mergeSort.mp hc)
  · intro c hc
    obtain ⟨k₀, hk₀, hck⟩ := h.filed c hc
    exact ⟨_, hmem.mpr ⟨k₀, hk₀, rfl⟩, List.mem_mergeSort.mpr hck⟩
  · intro k hk
    obtain ⟨k₀, hk₀, rfl⟩ := hmem.mp hk
    simpa [← List.length_pos_iff] using h.inhabited k₀ hk₀
  · intro k hk
    obtain ⟨k₀, hk₀, rfl⟩ := hmem.mp hk
    exact ((List.mergeSort_perm _ _).map _).nodup_iff.mpr (h.shortNames k₀ hk₀)

/-- Sorting features by id, and within each the classes and commands, keeps
them an index. -/
theorem FeaturesIndex.sort {fs : List FeatureInfo} (h : FeaturesIndex cs fs) :
    FeaturesIndex cs ((fs.mergeSort fun a b => a.id ≤ b.id).map fun f =>
      { f with classes := (f.classes.mergeSort fun a b => a.id ≤ b.id).map fun c =>
        { c with commands := c.commands.mergeSort fun a b => a.id ≤ b.id } }) := by
  have hmem : ∀ {f : FeatureInfo}, f ∈ (fs.mergeSort fun a b => a.id ≤ b.id).map (fun f =>
      { f with classes := (f.classes.mergeSort fun a b => a.id ≤ b.id).map fun c =>
        { c with commands := c.commands.mergeSort fun a b => a.id ≤ b.id } }) ↔
      ∃ f₀ ∈ fs, { f₀ with classes := (f₀.classes.mergeSort fun a b => a.id ≤ b.id).map fun c =>
        { c with commands := c.commands.mergeSort fun a b => a.id ≤ b.id } } = f := by
    intro f
    simp only [List.mem_map, List.mem_mergeSort]
  constructor
  · rw [List.map_map]
    exact ((List.mergeSort_perm fs _).map _).nodup_iff.mpr h.names
  · rw [List.map_map]
    exact ((List.mergeSort_perm fs _).map _).nodup_iff.mpr h.ids
  · intro f hf
    obtain ⟨f₀, hf₀, rfl⟩ := hmem.mp hf
    exact (h.classes f₀ hf₀).sort
  · intro f hf
    obtain ⟨f₀, hf₀, rfl⟩ := hmem.mp hf
    exact h.feature_ids f₀ hf₀
  · intro c hc
    obtain ⟨f₀, hf₀, hname⟩ := h.filed c hc
    exact ⟨_, hmem.mpr ⟨f₀, hf₀, rfl⟩, hname⟩
  · intro f hf
    obtain ⟨f₀, hf₀, rfl⟩ := hmem.mp hf
    simpa [← List.length_pos_iff] using h.inhabited f₀ hf₀

theorem Indexes.sort {t : Table} (h : Indexes cs t) : Indexes cs t.sorted :=
  ⟨(List.mergeSort_perm _ _).trans h.commands, h.identities, h.placed, h.features.sort⟩

end Sorted

section Lookup

variable {cs : List Command} {fs : List FeatureInfo}

theorem FeaturesIndex.mem_commands_iff (h : FeaturesIndex cs fs) {f : FeatureInfo}
    {k : ClassInfo} (hf : f ∈ fs) (hk : k ∈ f.classes) {c : Command} :
    c ∈ k.commands ↔ c ∈ cs ∧ c.path.1 = f.name ∧ c.path.2.1 = k.name := by
  rw [(h.classes f hf).mem_commands k hk c, List.mem_filter, beq_iff_eq, and_assoc]

theorem FeaturesIndex.exists_class (h : FeaturesIndex cs fs) {c : Command} (hc : c ∈ cs) :
    ∃ f ∈ fs, ∃ k ∈ f.classes, c ∈ k.commands := by
  obtain ⟨f, hf, hname⟩ := h.filed c hc
  obtain ⟨k, hk, hck⟩ := (h.classes f hf).filed c (List.mem_filter.mpr ⟨hc, by simpa using hname⟩)
  exact ⟨f, hf, k, hk, hck⟩

theorem FeaturesIndex.path_injective (h : FeaturesIndex cs fs) {c c' : Command} (hc : c ∈ cs)
    (hc' : c' ∈ cs) (hpath : c.path = c'.path) : c = c' := by
  obtain ⟨f, hf, k, hk, hck⟩ := h.exists_class hc
  obtain ⟨-, hfname, hkname⟩ := (h.mem_commands_iff hf hk).mp hck
  have hck' : c' ∈ k.commands :=
    (h.mem_commands_iff hf hk).mpr ⟨hc', hpath ▸ hfname, hpath ▸ hkname⟩
  exact List.inj_on_of_nodup_map ((h.classes f hf).shortNames k hk) hck hck'
    (by simp [Command.shortName, hpath])

/-- Looking up a feature, one of its classes and one of that class's commands
by name finds exactly the command of that path. -/
theorem FeaturesIndex.find_path (h : FeaturesIndex cs fs) {fname kname short : String}
    {c : Command} :
    (fs.find? (·.name == fname) >>= fun f => f.cls? kname >>= fun k => k.command? short) =
        some c ↔
      c ∈ cs ∧ c.path = (fname, kname, short) := by
  simp only [Option.bind_eq_bind, Option.bind_eq_some_iff]
  constructor
  · rintro ⟨f, hfound, k, hkfound, hc⟩
    obtain ⟨hf, rfl⟩ := (List.find?_key_eq_some h.names).mp hfound
    obtain ⟨hk, rfl⟩ := (List.find?_key_eq_some (h.classes f hf).names).mp hkfound
    have hshort : c.shortName = short := by simpa using List.find?_some hc
    obtain ⟨hc, hfname, hkname⟩ := (h.mem_commands_iff hf hk).mp (List.mem_of_find?_eq_some hc)
    refine ⟨hc, ?_⟩
    rw [← hfname, ← hkname, ← hshort]
    rfl
  · rintro ⟨hc, hpath⟩
    obtain ⟨f, hf, k, hk, hck⟩ := h.exists_class hc
    obtain ⟨-, hfname, hkname⟩ := (h.mem_commands_iff hf hk).mp hck
    refine ⟨f, (List.find?_key_eq_some h.names).mpr ⟨hf, ?_⟩, k,
      (List.find?_key_eq_some (h.classes f hf).names).mpr ⟨hk, ?_⟩,
      (List.find?_key_eq_some ((h.classes f hf).shortNames k hk)).mpr ⟨hck, ?_⟩⟩
    · rw [← hfname, hpath]
    · rw [← hkname, hpath]
    · simp [Command.shortName, hpath]

theorem Command.path_classless {c : Command} (h : c.classless = true) :
    c.path.2.1 = defaultClassName := by
  unfold Command.classless at h
  obtain ⟨a, b, hab⟩ := List.length_eq_two.mp (by simpa using h)
  simp [Command.path, hab]

/-- A feature is classless exactly when all its commands are: its one class
is then the default one. -/
theorem FeaturesIndex.classless_iff (h : FeaturesIndex cs fs) {f : FeatureInfo} (hf : f ∈ fs) :
    f.classless = true ↔ ∀ k ∈ f.classes, ∀ c ∈ k.commands, c.classless = true := by
  have hk := h.classes f hf
  have hinhabited := h.inhabited f hf
  unfold FeatureInfo.classless
  generalize f.classes = ks at hk hinhabited ⊢
  rcases ks with _ | ⟨k, _ | ⟨k₂, rest⟩⟩
  · exact absurd rfl hinhabited
  · obtain ⟨c, hc⟩ := List.exists_mem_of_ne_nil _ (hk.inhabited k List.mem_cons_self)
    simp only [List.mem_singleton, forall_eq]
    constructor
    · intro hdefault c' hc'
      rw [(hk.command_ids k List.mem_cons_self c' hc').2, hdefault]
    · intro hall
      rw [← (hk.command_ids k List.mem_cons_self c hc).2]
      exact hall c hc
  · -- two classes cannot both hold classless commands: both would be the default class
    simp only [Bool.false_eq_true, false_iff]
    intro hall
    obtain ⟨c₁, hc₁⟩ := List.exists_mem_of_ne_nil _ (hk.inhabited k List.mem_cons_self)
    obtain ⟨c₂, hc₂⟩ := List.exists_mem_of_ne_nil _ (hk.inhabited k₂ (by simp))
    have hname₁ := ((hk.mem_commands k List.mem_cons_self c₁).mp hc₁).2
    have hname₂ := ((hk.mem_commands k₂ (by simp) c₂).mp hc₂).2
    rw [Command.path_classless (hall k List.mem_cons_self c₁ hc₁)] at hname₁
    rw [Command.path_classless (hall k₂ (by simp) c₂ hc₂)] at hname₂
    have hnd := hk.names
    simp only [List.map_cons, List.nodup_cons, List.mem_cons, List.mem_map] at hnd
    exact hnd.1 (.inl (hname₁.symm.trans hname₂))

end Lookup

section Answers

variable {cs : List Command} {t : Table}

theorem Indexes.findByIdentity?_eq_some (h : Indexes cs t) {id : Identity} {c : Command} :
    t.findByIdentity? id = some c ↔ c ∈ cs ∧ c.identity = id := by
  have hnd : (t.commands.map Command.identity).Nodup :=
    (h.commands.map _).nodup_iff.mpr h.identities
  rw [findByIdentity?, List.find?_key_eq_some hnd, h.commands.mem_iff]

theorem Indexes.findByName?_eq_some (h : Indexes cs t) {p : String} {c : Command} :
    t.findByName? p = some c ↔ c ∈ cs ∧
      ((∃ f k, p.splitOn "." = [f, k] ∧ c.path = (f, defaultClassName, k)) ∨
        ∃ f g k, p.splitOn "." = [f, g, k] ∧ c.path = (f, g, k)) := by
  unfold findByName?
  rcases hp : p.splitOn "." with _ | ⟨a, _ | ⟨b, _ | ⟨d, _ | ⟨e, rest⟩⟩⟩⟩
  all_goals simp only [List.cons.injEq, reduceCtorEq, and_false, false_and, exists_false,
    or_false, false_or, and_true, exists_eq_left', existsAndEq]
  case cons.cons.nil => exact h.features.find_path
  case cons.cons.cons.nil => exact h.features.find_path
  all_goals simp

theorem Indexes.findByName?_name (h : Indexes cs t) {c : Command} (hc : c ∈ cs) :
    t.findByName? c.name = some c := by
  obtain ⟨⟨fname, kname, short, isDefault⟩, hplace⟩ := h.placed c hc
  refine h.findByName?_eq_some.mpr ⟨hc, ?_⟩
  rcases place_splitOn hplace with ⟨hparts, rfl, -⟩ | ⟨hparts, -⟩
  · exact .inl ⟨fname, short, hparts, place_path hplace⟩
  · exact .inr ⟨fname, kname, short, hparts, place_path hplace⟩

/-- The commands of one class carry distinct command numbers: they share the
feature and class ids, and identities are distinct. -/
theorem Indexes.command_numbers (h : Indexes cs t) {f : FeatureInfo} {k : ClassInfo}
    (hf : f ∈ t.features) (hk : k ∈ f.classes) : (k.commands.map (·.id)).Nodup := by
  have hcls := h.features.classes f hf
  refine List.Nodup.map_on ?_ (List.Nodup.of_map _ (hcls.shortNames k hk))
  intro c hc c' hc' hid
  obtain ⟨hcs, hcf, -⟩ := (h.features.mem_commands_iff hf hk).mp hc
  obtain ⟨hcs', hcf', -⟩ := (h.features.mem_commands_iff hf hk).mp hc'
  have hidentity : c.identity = c'.identity := by
    simp only [Command.identity, Identity.mk.injEq]
    exact ⟨(h.features.feature_ids f hf c hcs hcf).trans
        (h.features.feature_ids f hf c' hcs' hcf').symm,
      (hcls.command_ids k hk c hc).1.trans (hcls.command_ids k hk c' hc').1.symm, hid⟩
  exact List.inj_on_of_nodup_map h.identities hcs hcs' hidentity

/-- What a table answers about the commands `cs` it was built from: it is a
consistent two-way index of them. -/
structure ConsistentIndex (cs : List Command) (t : Table) : Prop where
  /-- The commands are those given, in strictly increasing identity order. -/
  commands_perm : t.commands.Perm cs
  commands_sorted : t.commands.Pairwise fun a b => a.identity.value < b.identity.value
  /-- Look-up by identity finds the command with that identity, and nothing
  when none has it. -/
  find_identity : ∀ id c, t.findByIdentity? id = some c ↔ c ∈ cs ∧ c.identity = id
  /-- Look-up by full name finds a command exactly when the name splits into
  its path, a name of two components standing for the default class. -/
  find_name : ∀ p c, t.findByName? p = some c ↔ c ∈ cs ∧
    ((∃ f k, p.splitOn "." = [f, k] ∧ c.path = (f, defaultClassName, k)) ∨
      ∃ f g k, p.splitOn "." = [f, g, k] ∧ c.path = (f, g, k))
  find_own_name : ∀ c ∈ cs, t.findByName? c.name = some c
  path_injective : ∀ c ∈ cs, ∀ c' ∈ cs, c.path = c'.path → c = c'
  /-- Features in strictly increasing id order, one a name. -/
  features_sorted : t.features.Pairwise fun f g => f.id < g.id
  feature_names : (t.features.map (·.name)).Nodup
  /-- Within a feature, classes in strictly increasing id order, one a name. -/
  classes_sorted : ∀ f ∈ t.features, f.classes.Pairwise fun k l => k.id < l.id
  class_names : ∀ f ∈ t.features, (f.classes.map (·.name)).Nodup
  /-- Within a class, commands in strictly increasing number order. -/
  class_commands_sorted :
    ∀ f ∈ t.features, ∀ k ∈ f.classes, k.commands.Pairwise fun a b => a.id < b.id
  /-- A class holds exactly the commands whose path names its feature and it,
  and they carry the feature's id, its id and its default flag. -/
  mem_class : ∀ f ∈ t.features, ∀ k ∈ f.classes, ∀ c,
    c ∈ k.commands ↔ c ∈ cs ∧ c.path.1 = f.name ∧ c.path.2.1 = k.name
  class_ids : ∀ f ∈ t.features, ∀ k ∈ f.classes, ∀ c ∈ k.commands,
    c.feature = f.id ∧ c.cls = k.id ∧ c.classless = k.isDefault
  /-- Every command is filed, and every feature and class holds one. -/
  filed : ∀ c ∈ cs, ∃ f ∈ t.features, ∃ k ∈ f.classes, c ∈ k.commands
  inhabited : ∀ f ∈ t.features, f.classes ≠ [] ∧ ∀ k ∈ f.classes, k.commands ≠ []
  /-- A feature is classless exactly when all its commands are. -/
  classless : ∀ f ∈ t.features,
    f.classless = true ↔ ∀ k ∈ f.classes, ∀ c ∈ k.commands, c.classless = true

theorem Indexes.consistent_sorted {t₀ : Table} (hindex : Indexes cs t₀) :
    ConsistentIndex cs t₀.sorted := by
  have hsorted := hindex.sort
  have hfeatures := hsorted.features
  -- a feature and a class of the sorted table are sorted forms of those filed
  have hmem : ∀ {f}, f ∈ t₀.sorted.features → ∃ f₀ ∈ t₀.features,
      f = { f₀ with classes := (f₀.classes.mergeSort fun a b => a.id ≤ b.id).map fun c =>
        { c with commands := c.commands.mergeSort fun a b => a.id ≤ b.id } } := by
    intro f hf
    obtain ⟨f₀, hf₀, rfl⟩ := List.mem_map.mp hf
    exact ⟨f₀, List.mem_mergeSort.mp hf₀, rfl⟩
  refine {
    commands_perm := hsorted.commands
    commands_sorted := ?_
    find_identity := fun _ _ => hsorted.findByIdentity?_eq_some
    find_name := fun _ _ => hsorted.findByName?_eq_some
    find_own_name := fun _ hc => hsorted.findByName?_name hc
    path_injective := fun _ hc _ hc' => hfeatures.path_injective hc hc'
    features_sorted := List.pairwise_map.mpr (pairwise_mergeSort_lt hindex.features.ids)
    feature_names := hfeatures.names
    classes_sorted := ?_
    class_names := fun f hf => (hfeatures.classes f hf).names
    class_commands_sorted := ?_
    mem_class := fun _ hf _ hk _ => hfeatures.mem_commands_iff hf hk
    class_ids := ?_
    filed := fun _ hc => hfeatures.exists_class hc
    inhabited := fun f hf => ⟨hfeatures.inhabited f hf, (hfeatures.classes f hf).inhabited⟩
    classless := fun _ hf => hfeatures.classless_iff hf }
  · have hnd : (t₀.commands.map Command.identity).Nodup :=
      (hindex.commands.map _).nodup_iff.mpr hindex.identities
    have hvalues := hnd.map Identity.value_injective
    rw [List.map_map] at hvalues
    exact pairwise_mergeSort_lt hvalues
  · intro f hf
    obtain ⟨f₀, hf₀, rfl⟩ := hmem hf
    exact List.pairwise_map.mpr (pairwise_mergeSort_lt (hindex.features.classes f₀ hf₀).ids)
  · intro f hf k hk
    obtain ⟨f₀, hf₀, rfl⟩ := hmem hf
    obtain ⟨k₀, hk₀, rfl⟩ := List.mem_map.mp hk
    exact pairwise_mergeSort_lt (hindex.command_numbers hf₀ (List.mem_mergeSort.mp hk₀))
  · intro f hf k hk c hc
    obtain ⟨hcs, hfname, -⟩ := (hfeatures.mem_commands_iff hf hk).mp hc
    exact ⟨hfeatures.feature_ids f hf c hcs hfname, (hfeatures.classes f hf).command_ids k hk c hc⟩

/-- A table that `build` returns is a consistent two-way index of the commands
it was given, every one of which is present. -/
theorem build_index_consistent {drafts : List MultisetDraft} {cmds : List (Option Command)}
    {extra : List (Option MultisetDraft)} {t : Table} (h : build drafts cmds extra = .ok t) :
    ∃ cs, cmds = cs.map some ∧ ConsistentIndex cs t := by
  obtain ⟨cs, t₀, rfl, hindex, rfl⟩ := build_indexes h
  exact ⟨cs, rfl, hindex.consistent_sorted⟩

/-- The command `generic.SetDroneSettings` of the classless feature
`generic`. -/
def setDroneSettings : Command :=
  { name := "generic.SetDroneSettings", feature := 149, cls := 0, id := 0 }

/-- The table of `setDroneSettings` alone files it in the default class of
`generic`. -/
theorem build_setDroneSettings :
    build [] [some setDroneSettings] [] =
      .ok (sorted ⟨[setDroneSettings],
        [⟨"generic", 149, [⟨defaultClassName, 0, true, [setDroneSettings]⟩]⟩], [], []⟩) := by
  have hsplit : setDroneSettings.name.splitOn "." = ["generic", "SetDroneSettings"] := by
    simp +decide only [String.splitOn, ↓reduceIte, setDroneSettings, String.splitOnAux,
      String.Pos.Raw.unoffsetBy_zero, List.reverse_cons, List.reverse_nil, List.nil_append,
      List.cons_append, List.cons.injEq]
  have hplace : place setDroneSettings =
      .ok ("generic", defaultClassName, "SetDroneSettings", true) := by
    simp [place, hsplit]
    rfl
  -- no arguments to check
  have hcheck : setDroneSettings.checkArgs [] = .ok () := rfl
  simp [build, addCommand, add, hplace, featureFor, classFor, refile, empty, hcheck,
    FeatureInfo.cls?, ClassInfo.command?]
  rfl

theorem build_index_setDroneSettings :
    build [] [some setDroneSettings] [] =
        .ok (sorted ⟨[setDroneSettings],
          [⟨"generic", 149, [⟨defaultClassName, 0, true, [setDroneSettings]⟩]⟩], [], []⟩) ∧
      ∃ cs, [some setDroneSettings] = cs.map some ∧
        ConsistentIndex cs (sorted ⟨[setDroneSettings],
          [⟨"generic", 149, [⟨defaultClassName, 0, true, [setDroneSettings]⟩]⟩], [], []⟩) :=
  ⟨build_setDroneSettings, build_index_consistent build_setDroneSettings⟩

end Answers

end Table

end DroneProtocol
