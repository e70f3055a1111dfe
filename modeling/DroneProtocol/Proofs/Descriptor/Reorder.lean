import DroneProtocol.Proofs.Descriptor.Acceptance

/-! # A table does not depend on the order of its inputs

Main statement: `build_perm`. Both tables are sorted forms of indexes of the
same commands, and a list sorted strictly by a key is fixed by its entries
(`eq_of_pairwise_lt`). -/

namespace DroneProtocol

def ClassInfo.sortCommands (k : ClassInfo) : ClassInfo :=
  { k with commands := k.commands.mergeSort fun a b => a.id ≤ b.id }

def FeatureInfo.sortClasses (f : FeatureInfo) : FeatureInfo :=
  { f with classes := (f.classes.mergeSort fun a b => a.id ≤ b.id).map ClassInfo.sortCommands }

namespace Table

section Sorted

variable {α α' β : Type} [LE β] [LT β] [Std.IsLinearOrder β] [Std.LawfulOrderLT β]

/-- Two lists sorted strictly by a key are equal when they have the same
entries. -/
theorem eq_of_pairwise_lt {key : α → β} {l₁ l₂ : List α}
    (h₁ : l₁.Pairwise fun a b => key a < key b) (h₂ : l₂.Pairwise fun a b => key a < key b)
    (hmem : ∀ a, a ∈ l₁ ↔ a ∈ l₂) : l₁ = l₂ := by
  have hnd : ∀ {l : List α}, (l.Pairwise fun a b => key a < key b) → l.Nodup := fun h =>
    h.imp fun hab heq => by
      subst heq
      exact Std.lt_irrefl hab
  exact List.Perm.eq_of_pairwise
    (fun _ _ _ _ hab hba => absurd (Std.lt_trans hab hba) Std.lt_irrefl) h₁ h₂
    ((List.perm_ext_iff_of_nodup (hnd h₁) (hnd h₂)).mpr hmem)

/-- Sorting by a key that no two entries share and then mapping by a function
that keeps the key gives the same list for two lists of the same images. -/
theorem map_mergeSort_eq [DecidableLE β] {g : α → α} {key : α → β} {l l' : List α}
    (hnd : (l.map key).Nodup) (hnd' : (l'.map key).Nodup) (hkey : ∀ a, key (g a) = key a)
    (himage : ∀ x, (∃ a ∈ l, g a = x) ↔ ∃ a ∈ l', g a = x) :
    (l.mergeSort fun a b => key a ≤ key b).map g =
      (l'.mergeSort fun a b => key a ≤ key b).map g := by
  have hsorted : ∀ {l : List α}, (l.map key).Nodup →
      ((l.mergeSort fun a b => key a ≤ key b).map g).Pairwise fun x y => key x < key y :=
    fun hnd => List.pairwise_map.mpr ((pairwise_mergeSort_lt hnd).imp fun h => by
      rwa [hkey, hkey])
  refine eq_of_pairwise_lt (hsorted hnd) (hsorted hnd') fun x => ?_
  simp only [List.mem_map, List.mem_mergeSort]
  exact himage x

end Sorted

section Unique

variable {cs cs' : List Command}

/-- A class of one index, sorted, is a class of an index of the same commands
in another order. -/
theorem ClassesIndex.same_class {ks ks' : List ClassInfo} (h : ClassesIndex cs ks)
    (h' : ClassesIndex cs' ks') (hp : cs.Perm cs')
    (hnum : ∀ k ∈ ks, (k.commands.map (·.id)).Nodup)
    (hnum' : ∀ k ∈ ks', (k.commands.map (·.id)).Nodup) {k : ClassInfo} (hk : k ∈ ks) :
    ∃ k' ∈ ks', k.sortCommands = k'.sortCommands := by
  -- the class of any of its commands in the other index
  obtain ⟨c, hc⟩ := List.exists_mem_of_ne_nil _ (h.inhabited k hk)
  obtain ⟨hcs, hcname⟩ := (h.mem_commands k hk c).mp hc
  obtain ⟨k', hk', hc'⟩ := h'.filed c (hp.mem_iff.mp hcs)
  obtain ⟨-, hcname'⟩ := (h'.mem_commands k' hk' c).mp hc'
  obtain ⟨hcid, hcdefault⟩ := h.command_ids k hk c hc
  obtain ⟨hcid', hcdefault'⟩ := h'.command_ids k' hk' c hc'
  have hname : k.name = k'.name := hcname.symm.trans hcname'
  have hcommands : (k.commands.mergeSort fun a b => a.id ≤ b.id) =
      k'.commands.mergeSort fun a b => a.id ≤ b.id := by
    refine eq_of_pairwise_lt (pairwise_mergeSort_lt (hnum k hk))
      (pairwise_mergeSort_lt (hnum' k' hk')) fun x => ?_
    rw [List.mem_mergeSort, List.mem_mergeSort, h.mem_commands k hk x, h'.mem_commands k' hk' x,
      hp.mem_iff, hname]
  refine ⟨k', hk', ?_⟩
  simp only [ClassInfo.sortCommands, hname, hcid.symm.trans hcid',
    hcdefault.symm.trans hcdefault', hcommands]

theorem ClassesIndex.sort_eq {ks ks' : List ClassInfo} (h : ClassesIndex cs ks)
    (h' : ClassesIndex cs' ks') (hp : cs.Perm cs')
    (hnum : ∀ k ∈ ks, (k.commands.map (·.id)).Nodup)
    (hnum' : ∀ k ∈ ks', (k.commands.map (·.id)).Nodup) :
    (ks.mergeSort fun a b => a.id ≤ b.id).map ClassInfo.sortCommands =
      (ks'.mergeSort fun a b => a.id ≤ b.id).map ClassInfo.sortCommands := by
  refine map_mergeSort_eq h.ids h'.ids (fun _ => rfl) fun x => ⟨?_, ?_⟩
  · rintro ⟨k, hk, rfl⟩
    obtain ⟨k', hk', heq⟩ := h.same_class h' hp hnum hnum' hk
    exact ⟨k', hk', heq.symm⟩
  · rintro ⟨k', hk', rfl⟩
    obtain ⟨k, hk, heq⟩ := h'.same_class h hp.symm hnum' hnum hk'
    exact ⟨k, hk, heq.symm⟩

variable {fs fs' : List FeatureInfo}

/-- A feature of one index, sorted, is a feature of an index of the same
commands in another order. -/
theorem FeaturesIndex.same_feature (h : FeaturesIndex cs fs) (h' : FeaturesIndex cs' fs')
    (hp : cs.Perm cs') (hnum : ∀ f ∈ fs, ∀ k ∈ f.classes, (k.commands.map (·.id)).Nodup)
    (hnum' : ∀ f ∈ fs', ∀ k ∈ f.classes, (k.commands.map (·.id)).Nodup) {f : FeatureInfo}
    (hf : f ∈ fs) : ∃ f' ∈ fs', f.sortClasses = f'.sortClasses := by
  -- the feature of any of its commands in the other index
  obtain ⟨c, hc, hcname, hcid⟩ := h.exists_command hf
  have hc' := hp.mem_iff.mp hc
  obtain ⟨f', hf', hcname'⟩ := h'.filed c hc'
  have hname : f.name = f'.name := hcname.symm.trans hcname'
  have hclasses := (h.classes f hf).sort_eq (h'.classes f' hf') (hname ▸ hp.filter _)
    (hnum f hf) (hnum' f' hf')
  refine ⟨f', hf', ?_⟩
  simp only [FeatureInfo.sortClasses, hname, hcid.symm.trans (h'.feature_ids f' hf' c hc' hcname'),
    hclasses]

theorem FeaturesIndex.sort_eq (h : FeaturesIndex cs fs) (h' : FeaturesIndex cs' fs')
    (hp : cs.Perm cs') (hnum : ∀ f ∈ fs, ∀ k ∈ f.classes, (k.commands.map (·.id)).Nodup)
    (hnum' : ∀ f ∈ fs', ∀ k ∈ f.classes, (k.commands.map (·.id)).Nodup) :
    (fs.mergeSort fun a b => a.id ≤ b.id).map FeatureInfo.sortClasses =
      (fs'.mergeSort fun a b => a.id ≤ b.id).map FeatureInfo.sortClasses := by
  refine map_mergeSort_eq h.ids h'.ids (fun _ => rfl) fun x => ⟨?_, ?_⟩
  · rintro ⟨f, hf, rfl⟩
    obtain ⟨f', hf', heq⟩ := h.same_feature h' hp hnum hnum' hf
    exact ⟨f', hf', heq.symm⟩
  · rintro ⟨f', hf', rfl⟩
    obtain ⟨f, hf, heq⟩ := h'.same_feature h hp.symm hnum' hnum hf'
    exact ⟨f, hf, heq.symm⟩

variable {t t' : Table}

theorem Indexes.values_nodup (h : Indexes cs t) :
    (t.commands.map fun c => c.identity.value).Nodup := by
  have hnd : (t.commands.map Command.identity).Nodup :=
    (h.commands.map _).nodup_iff.mpr h.identities
  have hvalues := hnd.map Identity.value_injective
  rw [List.map_map] at hvalues
  exact hvalues

/-- Tables that index the same commands in two orders have, once sorted, the
same commands and the same features. -/
theorem Indexes.sorted_eq (h : Indexes cs t) (h' : Indexes cs' t') (hp : cs.Perm cs') :
    t.sorted.commands = t'.sorted.commands ∧ t.sorted.features = t'.sorted.features := by
  refine ⟨?_, h.features.sort_eq h'.features hp (fun _ hf _ hk => h.command_numbers hf hk)
    (fun _ hf _ hk => h'.command_numbers hf hk)⟩
  show (t.commands.mergeSort fun a b => a.identity.value ≤ b.identity.value) =
    t'.commands.mergeSort fun a b => a.identity.value ≤ b.identity.value
  refine eq_of_pairwise_lt (pairwise_mergeSort_lt h.values_nodup)
    (pairwise_mergeSort_lt h'.values_nodup) fun c => ?_
  rw [List.mem_mergeSort, List.mem_mergeSort, h.commands.mem_iff, h'.commands.mem_iff,
    hp.mem_iff]

end Unique

section Multisets

variable {drafts : List MultisetDraft}

theorem validatedAs_unique {d : MultisetDraft} {decl decl' : MultisetDecl}
    (hv : d.ValidatedAs drafts decl) (hv' : d.ValidatedAs drafts decl') : decl = decl' := by
  have hmembers : decl.members = decl'.members :=
    (List.map_inj_right fun _ _ => Option.some_inj.mp).mp (hv.members.symm.trans hv'.members)
  obtain ⟨name, key, members⟩ := decl
  obtain ⟨name', key', members'⟩ := decl'
  simp only [MultisetDecl.mk.injEq]
  exact ⟨hv.name.trans hv'.name.symm, hv.key.trans hv'.key.symm, hmembers⟩

/-- Two registrations of the same drafts, no two of one name, hold the same
declarations. -/
theorem Registers.mem_iff {named : MultisetDraft → Prop} {ms ms' : Catalog}
    (h : Registers drafts named ms) (h' : Registers drafts named ms')
    (hunique : ∀ d d', named d → named d' → d.name = d'.name → d = d')
    (decl : MultisetDecl) :
    decl ∈ ms ↔ decl ∈ ms' := by
  -- each declaration is the validated form of the draft of its name
  have hmem : ∀ {ms ms' : Catalog}, Registers drafts named ms → Registers drafts named ms' →
      decl ∈ ms → decl ∈ ms' := by
    intro ms ms' h h' hdecl
    obtain ⟨d, hd, hv⟩ := h.sound decl hdecl
    obtain ⟨decl', hdecl', hname', -⟩ := h'.complete d hd
    obtain ⟨d', hd', hv'⟩ := h'.sound decl' hdecl'
    obtain rfl : d' = d := hunique d' d hd' hd (hv'.name.symm.trans hname')
    rwa [validatedAs_unique hv hv']
  exact ⟨hmem h h', hmem h' h⟩

variable {cmds cmds' : List (Option Command)} {extra extra' : List (Option MultisetDraft)}
  {t t' : Table}

theorem build_multisets_sorted (h : build drafts cmds extra = .ok t) :
    t.multisets.Pairwise fun a b => a.name < b.name := by
  obtain ⟨_, t₀, -, -, rfl⟩ := build_indexes h
  have hnd := (build_registers h).nodup
  exact pairwise_mergeSort_lt (((List.mergeSort_perm _ _).map _).nodup_iff.mp hnd)

/-- Two tables built from the same inputs in two orders are equal, when drafts
are told apart by their keys and the multisets passed explicitly are among
them. -/
theorem build_perm_eq (hkeys : (drafts.map (·.key)).Nodup)
    (hextra : ∀ d, some d ∈ extra → d ∈ drafts) (hcmds : cmds'.Perm cmds)
    (hextra' : extra'.Perm extra) (h : build drafts cmds extra = .ok t)
    (h' : build drafts cmds' extra' = .ok t') : t' = t := by
  have hadm := admissible_of_build hkeys hextra h
  -- the drafts the table names are told apart by their names
  have hunique : ∀ d d', Names drafts cmds extra d → Names drafts cmds extra d' →
      d.name = d'.name → d = d' := fun d d' hd hd' hname =>
    List.inj_on_of_nodup_map hkeys (hd.mem_drafts hextra) (hd'.mem_drafts hextra)
      (hadm.keys d d' hd hd' hname)
  have hmultisets : t'.multisets = t.multisets :=
    eq_of_pairwise_lt (build_multisets_sorted h') (build_multisets_sorted h)
      (((build_registers h').congr fun _ => Names.perm hcmds hextra').mem_iff
        (build_registers h) hunique)
  obtain ⟨cs, t₀, rfl, hindex, rfl⟩ := build_indexes h
  obtain ⟨cs', t₀', rfl, hindex', rfl⟩ := build_indexes h'
  have hp : cs'.Perm cs := by simpa using hcmds.filterMap id
  obtain ⟨hcommands, hfeatures⟩ := hindex'.sorted_eq hindex hp
  calc t₀'.sorted
      = ⟨t₀'.sorted.commands, t₀'.sorted.features, t₀'.sorted.multisets,
          t₀'.sorted.declarations⟩ := rfl
    _ = ⟨t₀.sorted.commands, t₀.sorted.features, t₀.sorted.multisets, t₀.sorted.declarations⟩ := by
      rw [hcommands, hfeatures, hmultisets, build_declarations h, build_declarations h']
    _ = t₀.sorted := rfl

end Multisets

/-- `build` does not depend on the order of its inputs: permuting the commands
and the multisets passed explicitly changes neither whether it succeeds nor
the table it returns, so neither any answer of the table. Drafts are told
apart by their keys, and the multisets passed explicitly are among them. -/
theorem build_perm {drafts : List MultisetDraft} {cmds cmds' : List (Option Command)}
    {extra extra' : List (Option MultisetDraft)} (hkeys : (drafts.map (·.key)).Nodup)
    (hextra : ∀ d, some d ∈ extra → d ∈ drafts) (hcmds : cmds'.Perm cmds)
    (hextra' : extra'.Perm extra) (t : Table) :
    build drafts cmds' extra' = .ok t ↔ build drafts cmds extra = .ok t := by
  have hextra₂ : ∀ d, some d ∈ extra' → d ∈ drafts := fun d hd =>
    hextra d (hextra'.mem_iff.mp hd)
  constructor
  · intro h'
    obtain ⟨t₀, h₀⟩ := build_exists
      ((admissible_of_build hkeys hextra₂ h').perm hcmds.symm hextra'.symm)
    rwa [build_perm_eq hkeys hextra₂ hcmds.symm hextra'.symm h' h₀] at h₀
  · intro h
    obtain ⟨t₀, h₀⟩ := build_exists
      ((admissible_of_build hkeys hextra h).perm hcmds hextra')
    rwa [build_perm_eq hkeys hextra hcmds hextra' h h₀] at h₀

def takeOff : Command := { name := "ardrone3.Piloting.TakeOff", feature := 1, cls := 0, id := 1 }

def landing : Command := { name := "ardrone3.Piloting.Landing", feature := 1, cls := 0, id := 3 }

theorem build_perm_landing_takeOff :
    (([] : List MultisetDraft).map (·.key)).Nodup ∧
      (∀ d, some d ∈ ([] : List (Option MultisetDraft)) → d ∈ ([] : List MultisetDraft)) ∧
      [some landing, some takeOff].Perm [some takeOff, some landing] ∧
      ([] : List (Option MultisetDraft)).Perm [] ∧
      (build [] [some landing, some takeOff] [] = .ok (sorted ⟨[takeOff, landing],
          [⟨"ardrone3", 1, [⟨"Piloting", 0, false, [takeOff, landing]⟩]⟩], [], []⟩) ↔
        build [] [some takeOff, some landing] [] = .ok (sorted ⟨[takeOff, landing],
          [⟨"ardrone3", 1, [⟨"Piloting", 0, false, [takeOff, landing]⟩]⟩], [], []⟩)) := by
  have hkeys : (([] : List MultisetDraft).map (·.key)).Nodup := List.nodup_nil
  have hextra :
      ∀ d, some d ∈ ([] : List (Option MultisetDraft)) → d ∈ ([] : List MultisetDraft) :=
    fun _ h => absurd h List.not_mem_nil
  have hswap : [some landing, some takeOff].Perm [some takeOff, some landing] :=
    List.Perm.swap _ _ _
  exact ⟨hkeys, hextra, hswap, List.Perm.refl _,
    build_perm hkeys hextra hswap (List.Perm.refl _) _⟩

end Table

end DroneProtocol
