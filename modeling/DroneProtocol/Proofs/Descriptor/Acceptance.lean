import Mathlib.Data.List.ReduceOption
import DroneProtocol.Proofs.Descriptor.Index

/-! # Which inputs a table accepts

Which check refuses a bad input depends on the order of the inputs; whether
one is refused does not. Main statement: `build_ok_iff`, the inputs accepted
are the `Admissible` ones, proved by running each fold of `build` against an
invariant of the steps done so far. -/

namespace DroneProtocol

theorem List.key_eq_iff {α β : Type} {key : α → β} {l : List α} (hnd : (l.map key).Nodup)
    {a b : α} (ha : a ∈ l) (hb : b ∈ l) : key a = key b ↔ a = b :=
  ⟨fun h => List.inj_on_of_nodup_map hnd ha hb h, congrArg key⟩

/-- Two commands that a table can hold together: distinct identities; the
same feature name exactly when the same feature id and, within one feature,
the same class name exactly when the same class id; within one class, the
same default flag and distinct short names. -/
def Command.Compatible (a b : Command) : Prop :=
  a.identity ≠ b.identity ∧ (a.path.1 = b.path.1 ↔ a.feature = b.feature) ∧
    (a.path.1 = b.path.1 → (a.path.2.1 = b.path.2.1 ↔ a.cls = b.cls) ∧
      (a.path.2.1 = b.path.2.1 → a.classless = b.classless ∧ a.shortName ≠ b.shortName))

theorem Command.Compatible.symm {a b : Command} (h : a.Compatible b) : b.Compatible a := by
  obtain ⟨hid, hfeature, hcls⟩ := h
  refine ⟨Ne.symm hid,
    ⟨fun h => (hfeature.mp h.symm).symm, fun h => (hfeature.mpr h.symm).symm⟩, fun hf => ?_⟩
  obtain ⟨hk, hsame⟩ := hcls hf.symm
  refine ⟨⟨fun h => (hk.mp h.symm).symm, fun h => (hk.mpr h.symm).symm⟩, fun hkb => ?_⟩
  obtain ⟨hdefault, hshort⟩ := hsame hkb.symm
  exact ⟨hdefault.symm, Ne.symm hshort⟩

namespace Table

variable {drafts : List MultisetDraft}

/-- What `build` accepts, stated without order. -/
structure Admissible (drafts : List MultisetDraft) (cmds : List (Option Command))
    (extra : List (Option MultisetDraft)) : Prop where
  /-- Every command is present, with a path and arguments that pass their checks. -/
  present : none ∉ cmds
  placed : ∀ c, some c ∈ cmds → ∃ p, place c = .ok p
  args : ∀ c, some c ∈ cmds → c.checkArgs drafts = .ok ()
  /-- No two commands conflict. -/
  compatible : cmds.Pairwise fun o o' => ∀ c ∈ o, ∀ c' ∈ o', c.Compatible c'
  /-- Every multiset passed explicitly is present. -/
  extra_present : none ∉ extra
  /-- Every draft the table names has a name and validates, and drafts of one
  name have one key. -/
  valid : ∀ d, Names drafts cmds extra d → d.name ≠ "" ∧ ∃ decl, d.ValidatedAs drafts decl
  keys : ∀ d d', Names drafts cmds extra d → Names drafts cmds extra d' → d.name = d'.name →
    d.key = d'.key

section Perm

variable {cmds cmds' : List (Option Command)} {extra extra' : List (Option MultisetDraft)}

theorem Names.perm (hc : cmds'.Perm cmds) (he : extra'.Perm extra) {d : MultisetDraft} :
    Names drafts cmds' extra' d ↔ Names drafts cmds extra d := by
  constructor
  · rintro (⟨hcmd, hd⟩ | hd)
    exacts [.command (hc.mem_iff.mp hcmd) hd, .explicit (he.mem_iff.mp hd)]
  · rintro (⟨hcmd, hd⟩ | hd)
    exacts [.command (hc.mem_iff.mpr hcmd) hd, .explicit (he.mem_iff.mpr hd)]

/-- Admissibility does not depend on the order of the inputs. -/
theorem Admissible.perm (h : Admissible drafts cmds extra) (hc : cmds'.Perm cmds)
    (he : extra'.Perm extra) : Admissible drafts cmds' extra' where
  present hnone := h.present (hc.mem_iff.mp hnone)
  placed c hcmd := h.placed c (hc.mem_iff.mp hcmd)
  args c hcmd := h.args c (hc.mem_iff.mp hcmd)
  compatible := (hc.pairwise_iff fun hoo c hc c' hc' => (hoo c' hc' c hc).symm).mpr h.compatible
  extra_present hnone := h.extra_present (he.mem_iff.mp hnone)
  valid d hd := h.valid d ((Names.perm hc he).mp hd)
  keys d d' hd hd' := h.keys d d' ((Names.perm hc he).mp hd) ((Names.perm hc he).mp hd')

end Perm

section Register

/-- Everything registering a draft can do: find its name registered under its
key and change nothing, or register it under a new, non-empty name with the
members that the walk validates. -/
theorem addMultiset_eq_ok {t t' : Table} {ms : MultisetDraft} :
    addMultiset drafts t ms = .ok t' ↔
      (∃ prev, t.multisets.find? (·.name == ms.name) = some prev ∧ prev.key = ms.key ∧
          t' = t) ∨
        t.multisets.find? (·.name == ms.name) = none ∧ ms.name ≠ "" ∧
          ∃ members, addMultiset.go drafts ms ms.members [] = .ok members ∧
            t' = { t with multisets := t.multisets ++ [⟨ms.name, ms.key, members⟩] } := by
  unfold addMultiset
  cases hprev : t.multisets.find? (·.name == ms.name) with
  | some prev =>
    by_cases hkey : prev.key = ms.key
    · simp only [hkey, beq_self_eq_true, if_true, Except.pure_eq_ok, Except.ok.injEq,
        Option.some.injEq, exists_eq_left', true_and, reduceCtorEq, false_and, or_false]
      exact eq_comm
    · simp only [beq_iff_eq, hkey, if_false, Except.throw_eq_error, Except.error_bind,
        reduceCtorEq, Option.some.injEq, exists_eq_left', false_and, or_false]
  | none =>
    by_cases hname : ms.name = ""
    · simp [hname]
    · have hempty : ms.name.isEmpty = false := by simpa [String.isEmpty_iff] using hname
      simp only [hempty, Bool.false_eq_true, if_false, Except.bind_eq_ok, Except.pure_eq_ok,
        Except.ok.injEq, reduceCtorEq, false_and, exists_false, false_or, true_and, ne_eq, hname,
        not_false_eq_true]
      exact exists_congr fun _ => and_congr_right fun _ => eq_comm

/-- The member walk accepts present members with distinct identities and
valid arguments. -/
theorem addMultiset_go_of_valid {d : MultisetDraft} :
    ∀ {members acc : List Command}, ((acc.reverse ++ members).map Command.identity).Nodup →
      (∀ m ∈ members, m.checkArgs drafts = .ok ()) →
      addMultiset.go drafts d (members.map some) acc = .ok (acc.reverse ++ members)
  | [], _, _, _ => by simp [addMultiset.go]
  | m :: rest, acc, hnd, hargs => by
    have hfresh : acc.reverse.find? (·.identity == m.identity) = none := by
      rw [List.find?_key_eq_none]
      intro c hc hid
      rw [List.map_append, List.nodup_append] at hnd
      exact hnd.2.2 _ (List.mem_map_of_mem hc) _ (by simp) hid
    have hnd' : (((m :: acc).reverse ++ rest).map Command.identity).Nodup := by simpa using hnd
    simp only [List.map_cons, addMultiset.go, hfresh, hargs m List.mem_cons_self, Except.ok_bind,
      addMultiset_go_of_valid hnd' fun m' hm' => hargs m' (List.mem_cons_of_mem _ hm')]
    simp

theorem addMultiset_go_of_validated {d : MultisetDraft} {decl : MultisetDecl}
    (hv : d.ValidatedAs drafts decl) : addMultiset.go drafts d d.members [] = .ok decl.members := by
  have hgo : addMultiset.go drafts d (decl.members.map some) [] =
      .ok ([].reverse ++ decl.members) :=
    addMultiset_go_of_valid (by simpa using hv.distinct) hv.args
  rw [hv.members, hgo, List.reverse_nil, List.nil_append]

/-- The registered declarations are validated forms of drafts that satisfy
`N`, one a name, each under the name and key of its draft. -/
def RegistersWithin (drafts : List MultisetDraft) (N : MultisetDraft → Prop) (ms : Catalog) :
    Prop :=
  ∃ named : MultisetDraft → Prop, (∀ d, named d → N d) ∧ Registers drafts named ms

theorem RegistersWithin.nil {N : MultisetDraft → Prop} : RegistersWithin drafts N [] :=
  ⟨fun _ => False, fun _ h => h.elim, Registers.nil⟩

section Step

variable {cmds : List (Option Command)} {extra : List (Option MultisetDraft)} {t : Table}
  {d : MultisetDraft}

/-- Of an admissible input, a named draft can be registered: its name is
either new, and it validates, or registered under its key already. -/
theorem RegistersWithin.register (hadm : Admissible drafts cmds extra)
    (hinv : RegistersWithin drafts (Names drafts cmds extra) t.multisets)
    (hd : Names drafts cmds extra d) :
    ∃ t', addMultiset drafts t d = .ok t' ∧
      RegistersWithin drafts (Names drafts cmds extra) t'.multisets := by
  obtain ⟨named, hnamed, hreg⟩ := hinv
  have hstep : ∃ t', addMultiset drafts t d = .ok t' := by
    cases hprev : t.multisets.find? (·.name == d.name) with
    | some prev =>
      -- the draft registered under this name has this draft's key
      obtain ⟨d₂, hd₂, hv⟩ := hreg.sound prev (List.mem_of_find?_eq_some hprev)
      have hname : prev.name = d.name := by simpa using List.find?_some hprev
      have hkey : prev.key = d.key :=
        hv.key.trans (hadm.keys d₂ d (hnamed d₂ hd₂) hd (hv.name.symm.trans hname))
      exact ⟨t, addMultiset_eq_ok.mpr (.inl ⟨prev, hprev, hkey, rfl⟩)⟩
    | none =>
      obtain ⟨hname, decl, hv⟩ := hadm.valid d hd
      exact ⟨_, addMultiset_eq_ok.mpr (.inr ⟨hprev, hname, decl.members,
        addMultiset_go_of_validated hv, rfl⟩)⟩
  obtain ⟨t', ht'⟩ := hstep
  refine ⟨t', ht', fun d' => named d' ∨ d' = d, ?_, addMultiset_registers hreg ht'⟩
  rintro d' (hd' | rfl)
  exacts [hnamed d' hd', hd]

end Step

end Register

section Filing

variable {cs : List Command} {t : Table} {a : Command} {fname kname short : String}
  {isDefault : Bool}

theorem ClassesIndex.exists_command {ks : List ClassInfo} (h : ClassesIndex cs ks)
    {k : ClassInfo} (hk : k ∈ ks) :
    ∃ c ∈ cs, c.path.2.1 = k.name ∧ c.cls = k.id ∧ c.classless = k.isDefault := by
  obtain ⟨c, hc⟩ := List.exists_mem_of_ne_nil _ (h.inhabited k hk)
  obtain ⟨hcs, hname⟩ := (h.mem_commands k hk c).mp hc
  exact ⟨c, hcs, hname, h.command_ids k hk c hc⟩

theorem FeaturesIndex.exists_command {fs : List FeatureInfo} (h : FeaturesIndex cs fs)
    {f : FeatureInfo} (hf : f ∈ fs) : ∃ c ∈ cs, c.path.1 = f.name ∧ c.feature = f.id := by
  obtain ⟨k, hk⟩ := List.exists_mem_of_ne_nil _ (h.inhabited f hf)
  obtain ⟨c, hc, -⟩ := (h.classes f hf).exists_command hk
  obtain ⟨hcs, hname⟩ := List.mem_filter.mp hc
  have hname : c.path.1 = f.name := by simpa using hname
  exact ⟨c, hcs, hname, h.feature_ids f hf c hcs hname⟩

/-- A command compatible with every command filed finds its feature: the one
of its name carries its id, and without one no feature carries its id. -/
theorem FeaturesIndex.featureFor_exists (h : FeaturesIndex cs t.features)
    (hcompat : ∀ c ∈ cs, c.Compatible a) (hfname : a.path.1 = fname) :
    ∃ F, t.featureFor a fname = .ok F := by
  cases hfound : t.features.find? (·.name == fname) with
  | some F =>
    obtain ⟨hF, hname⟩ := (List.find?_key_eq_some h.names).mp hfound
    obtain ⟨c, hc, hcname, hcid⟩ := h.exists_command hF
    have hid : F.id = a.feature :=
      hcid.symm.trans ((hcompat c hc).2.1.mp (hcname.trans (hname.trans hfname.symm)))
    exact ⟨F, featureFor_eq_ok.mpr (.inl ⟨hfound, hid⟩)⟩
  | none =>
    have hidnone : t.features.find? (·.id == a.feature) = none := by
      rw [List.find?_key_eq_none]
      intro f hf hfid
      obtain ⟨c, hc, hcname, hcid⟩ := h.exists_command hf
      have hpath := (hcompat c hc).2.1.mpr (hcid.trans hfid)
      exact List.find?_key_eq_none.mp hfound f hf (hcname.symm.trans (hpath.trans hfname))
    exact ⟨_, featureFor_eq_ok.mpr (.inr ⟨hfound, hidnone, rfl⟩)⟩

variable {F : FeatureInfo}

/-- A command compatible with every command of its feature finds its class:
the one of its name carries its class id and default flag, and without one no
class of the feature carries its class id. -/
theorem ClassesIndex.classFor_exists (h : ClassesIndex cs F.classes)
    (hcompat : ∀ c ∈ cs, c.Compatible a) (hfeature : ∀ c ∈ cs, c.path.1 = a.path.1)
    (hkname : a.path.2.1 = kname) (hdefault : a.classless = isDefault) :
    ∃ K, classFor F a kname isDefault = .ok K := by
  cases hfound : F.cls? kname with
  | some K =>
    obtain ⟨hK, hname⟩ := (List.find?_key_eq_some h.names).mp hfound
    obtain ⟨c, hc, hcname, hcid, hcdefault⟩ := h.exists_command hK
    obtain ⟨hk, hsame⟩ := (hcompat c hc).2.2 (hfeature c hc)
    have hpath : c.path.2.1 = a.path.2.1 := hcname.trans (hname.trans hkname.symm)
    exact ⟨K, classFor_eq_ok.mpr (.inl ⟨hfound, hcid.symm.trans (hk.mp hpath),
      hcdefault.symm.trans ((hsame hpath).1.trans hdefault)⟩)⟩
  | none =>
    have hidnone : F.classes.find? (·.id == a.cls) = none := by
      rw [List.find?_key_eq_none]
      intro k hk hkid
      obtain ⟨c, hc, hcname, hcid, -⟩ := h.exists_command hk
      have hpath := ((hcompat c hc).2.2 (hfeature c hc)).1.mpr (hcid.trans hkid)
      have hfound' : F.cls? kname = some k := by
        rw [FeatureInfo.cls?, List.find?_key_eq_some h.names]
        exact ⟨hk, hcname.symm.trans (hpath.trans hkname)⟩
      exact absurd (hfound.symm.trans hfound') (by simp)
    exact ⟨_, classFor_eq_ok.mpr (.inr ⟨hfound, hidnone, rfl⟩)⟩

/-- A command compatible with every command filed can be added. -/
theorem Indexes.add_exists (h : Indexes cs t) (hcompat : ∀ c ∈ cs, c.Compatible a)
    (hplace : place a = .ok (fname, kname, short, isDefault)) : ∃ t', t.add a = .ok t' := by
  have hpath := place_path hplace
  obtain ⟨F, hF⟩ := h.features.featureFor_exists hcompat (by rw [hpath])
  obtain ⟨-, -, hclasses, -, -⟩ := h.features.featureFor_spec hF
  -- the commands of the feature are those whose path starts with its name
  have hfeature : ∀ c ∈ cs.filter (·.path.1 == fname), c ∈ cs ∧ c.path.1 = a.path.1 := by
    intro c hc
    obtain ⟨hcs, hcname⟩ := List.mem_filter.mp hc
    exact ⟨hcs, by rw [hpath]; simpa using hcname⟩
  obtain ⟨K, hK⟩ := hclasses.classFor_exists (fun c hc => hcompat c (hfeature c hc).1)
    (fun c hc => (hfeature c hc).2) (by rw [hpath]) (place_classless hplace)
  obtain ⟨-, -, -, hmem, -, -, -⟩ := hclasses.classFor_spec hK
  have hshort : K.command? short = none := by
    rw [ClassInfo.command?, List.find?_key_eq_none]
    intro c hc hshort
    obtain ⟨hcf, hckname⟩ := (hmem c).mp hc
    obtain ⟨hcs, hcfeature⟩ := hfeature c hcf
    have hsame := ((hcompat c hcs).2.2 hcfeature).2 (by rw [hckname, hpath])
    exact hsame.2 (hshort.trans (place_shortName hplace).symm)
  exact ⟨_, add_eq_ok_iff.mpr ⟨fun c hc => (hcompat c (h.commands.mem_iff.mp hc)).1,
    fname, kname, short, isDefault, F, K, hplace, hF, hK, hshort, rfl⟩⟩

theorem Indexes.pairwise_compatible (h : Indexes cs t) : cs.Pairwise Command.Compatible := by
  refine (List.Nodup.of_map _ h.identities).pairwise_of_forall_ne fun c hc c' hc' hne => ?_
  obtain ⟨f, hf, k, hk, hck⟩ := h.features.exists_class hc
  obtain ⟨f', hf', k', hk', hck'⟩ := h.features.exists_class hc'
  obtain ⟨-, hfname, hkname⟩ := (h.features.mem_commands_iff hf hk).mp hck
  obtain ⟨-, hfname', hkname'⟩ := (h.features.mem_commands_iff hf' hk').mp hck'
  refine ⟨fun hid => hne (List.inj_on_of_nodup_map h.identities hc hc' hid), ?_,
    fun hsame => ?_⟩
  · -- the same feature name, the same feature and the same feature id go together
    rw [hfname, hfname', h.features.feature_ids f hf c hc hfname,
      h.features.feature_ids f' hf' c' hc' hfname']
    exact (List.key_eq_iff h.features.names hf hf').trans
      (List.key_eq_iff h.features.ids hf hf').symm
  · obtain rfl : f = f' :=
      (List.key_eq_iff h.features.names hf hf').mp (hfname.symm.trans (hsame.trans hfname'))
    have hcls := h.features.classes f hf
    obtain ⟨hcid, hcdefault⟩ := hcls.command_ids k hk c hck
    obtain ⟨hcid', hcdefault'⟩ := hcls.command_ids k' hk' c' hck'
    refine ⟨?_, fun hksame => ?_⟩
    · rw [hkname, hkname', hcid, hcid']
      exact (List.key_eq_iff hcls.names hk hk').trans (List.key_eq_iff hcls.ids hk hk').symm
    · obtain rfl : k = k' :=
        (List.key_eq_iff hcls.names hk hk').mp (hkname.symm.trans (hksame.trans hkname'))
      exact ⟨hcdefault.trans hcdefault'.symm,
        fun hshort => hne (List.inj_on_of_nodup_map (hcls.shortNames k hk) hck hck' hshort)⟩

end Filing

section Build

variable {cmds : List (Option Command)} {extra : List (Option MultisetDraft)}

/-- Of an admissible input, each command can be added after those before it,
its multisets registered: the table then indexes the commands so far and
registers drafts the input names. -/
theorem addCommands_exists (hadm : Admissible drafts cmds extra) :
    ∃ t, cmds.foldlM (addCommand drafts) empty = .ok t ∧ Indexes cmds.reduceOption t ∧
      RegistersWithin drafts (Names drafts cmds extra) t.multisets := by
  refine foldlM_exists (I := fun p t => Indexes p.reduceOption t ∧
    RegistersWithin drafts (Names drafts cmds extra) t.multisets)
    (fun {p a t} hpre hinv => ?_) (List.nil_append cmds) ⟨Indexes.empty, RegistersWithin.nil⟩
  obtain ⟨hindex, hreg⟩ := hinv
  have ha : a ∈ cmds := hpre.subset (by simp)
  cases a with
  | none => exact absurd ha hadm.present
  | some c =>
    -- the command is compatible with every command before it
    have hcompat : ∀ c' ∈ p.reduceOption, c'.Compatible c := by
      intro c' hc'
      have hpw := List.pairwise_append.mp (hadm.compatible.sublist hpre.sublist)
      exact hpw.2.2 _ (List.reduceOption_mem_iff.mp hc') _ (List.mem_singleton_self _) c' rfl c rfl
    obtain ⟨⟨fname, kname, short, isDefault⟩, hplace⟩ := hadm.placed c ha
    obtain ⟨t₁, hadd⟩ := hindex.add_exists hcompat hplace
    obtain ⟨t₂, hfound, hreg₂⟩ := foldlM_exists_of_inv (f := addMultiset drafts)
      (I := fun t => RegistersWithin drafts (Names drafts cmds extra) t.multisets)
      (l := (c.args.filterMap (·.multiset)).filterMap fun r => drafts.find? (·.key == r.key))
      (fun hd hinv => hinv.register hadm (.command ha (mem_found_iff.mp hd)))
      (add_multisets hadd ▸ hreg)
    obtain ⟨hcmds, hfeatures⟩ := foldlM_keeps addMultiset_keeps hfound
    refine ⟨t₂, ?_, ?_, hreg₂⟩
    · simp only [addCommand, hadd, hadm.args c ha, Except.ok_bind]
      exact hfound
    · rw [List.reduceOption_append, List.reduceOption_singleton]
      exact (hindex.add hadd).of_eq hcmds hfeatures

theorem build_exists (hadm : Admissible drafts cmds extra) :
    ∃ t, build drafts cmds extra = .ok t := by
  obtain ⟨t₁, h₁, -, hreg₁⟩ := addCommands_exists hadm
  rw [build, h₁, Except.ok_bind]
  refine Exists.elim (foldlM_exists_of_inv (l := extra) (t := t₁)
    (I := fun t => RegistersWithin drafts (Names drafts cmds extra) t.multisets)
    (fun {o t} ho hinv => ?_) hreg₁)
    fun t₂ h => ⟨_, Except.bind_eq_ok.mpr ⟨t₂, h.1, rfl⟩⟩
  cases o with
  | none => exact absurd ho hadm.extra_present
  | some d => exact hinv.register hadm (.explicit ho)

theorem addCommand_args {t t' : Table} {o : Option Command} (h : addCommand drafts t o = .ok t') :
    ∃ c, o = some c ∧ c.checkArgs drafts = .ok () := by
  cases o with
  | none => simp [addCommand] at h
  | some c =>
    simp only [addCommand] at h
    obtain ⟨t₁, -, h⟩ := Except.bind_eq_ok.mp h
    obtain ⟨⟨⟩, hargs, -⟩ := Except.bind_eq_ok.mp h
    exact ⟨c, rfl, hargs⟩

theorem addMultiset_names {t t' : Table} {ms : MultisetDraft}
    (hne : ∀ decl ∈ t.multisets, decl.name ≠ "") (h : addMultiset drafts t ms = .ok t') :
    ∀ decl ∈ t'.multisets, decl.name ≠ "" := by
  rcases addMultiset_eq_ok.mp h with ⟨-, -, -, rfl⟩ | ⟨-, hname, members, -, rfl⟩
  · exact hne
  · intro decl hdecl
    rcases List.mem_append.mp hdecl with hdecl | hdecl
    · exact hne decl hdecl
    · rw [List.mem_singleton.mp hdecl]
      exact hname

/-- A table registers multisets under non-empty names only. -/
theorem build_names {t : Table} (h : build drafts cmds extra = .ok t) :
    ∀ decl ∈ t.multisets, decl.name ≠ "" := by
  obtain ⟨t₁, h₁, hrest⟩ := Except.bind_eq_ok.mp h
  obtain ⟨t₂, h₂, hsorted⟩ := Except.bind_eq_ok.mp hrest
  cases hsorted
  have hcommands : ∀ decl ∈ t₁.multisets, decl.name ≠ "" := by
    refine foldlM_inv (I := fun t => ∀ decl ∈ t.multisets, decl.name ≠ "")
      (fun {t t' o} hne hstep => ?_) (by simp [empty]) h₁
    cases o with
    | none => simp [addCommand] at hstep
    | some c =>
      simp only [addCommand] at hstep
      obtain ⟨t₁, hadd, hstep⟩ := Except.bind_eq_ok.mp hstep
      obtain ⟨⟨⟩, -, hstep⟩ := Except.bind_eq_ok.mp hstep
      exact foldlM_inv addMultiset_names (add_multisets hadd ▸ hne) hstep
  have hextras : ∀ decl ∈ t₂.multisets, decl.name ≠ "" := by
    refine foldlM_inv (I := fun t => ∀ decl ∈ t.multisets, decl.name ≠ "")
      (fun {t t' o} hne hstep => ?_) hcommands h₂
    cases o with
    | none => simp at hstep
    | some ms => exact addMultiset_names hne hstep
  exact fun decl hdecl => hextras decl (List.mem_mergeSort.mp hdecl)

theorem Names.mem_drafts (hextra : ∀ d, some d ∈ extra → d ∈ drafts) {d : MultisetDraft}
    (hd : Names drafts cmds extra d) : d ∈ drafts := by
  cases hd with
  | command _ hd =>
    obtain ⟨_, _, _, _, hfound⟩ := hd
    exact List.mem_of_find?_eq_some hfound
  | explicit hd => exact hextra _ hd

theorem admissible_of_build (hkeys : (drafts.map (·.key)).Nodup)
    (hextra : ∀ d, some d ∈ extra → d ∈ drafts) {t : Table}
    (h : build drafts cmds extra = .ok t) : Admissible drafts cmds extra := by
  obtain ⟨t₁, h₁, hrest⟩ := Except.bind_eq_ok.mp h
  obtain ⟨t₂, h₂, -⟩ := Except.bind_eq_ok.mp hrest
  have hargs := foldlM_forall (f := addCommand drafts) (fun hstep => addCommand_args hstep) h₁
  have hpresent := foldlM_forall (P := fun o => o ≠ none)
    (fun {t t' o} hstep => by cases o <;> simp_all) h₂
  have hreg := build_registers h
  -- a named draft is the one validated under its name: keys tell drafts apart
  have hown : ∀ d, Names drafts cmds extra d → ∃ decl ∈ t.multisets,
      decl.name = d.name ∧ decl.key = d.key ∧ d.ValidatedAs drafts decl := by
    intro d hd
    obtain ⟨decl, hdecl, hname, hkey⟩ := hreg.complete d hd
    obtain ⟨d₂, hd₂, hv⟩ := hreg.sound decl hdecl
    obtain rfl : d₂ = d := List.inj_on_of_nodup_map hkeys (hd₂.mem_drafts hextra)
      (hd.mem_drafts hextra) (hv.key.symm.trans hkey)
    exact ⟨decl, hdecl, hname, hkey, hv⟩
  obtain ⟨cs, t₀, rfl, hindex, -⟩ := build_indexes h
  refine ⟨fun hnone => ?_, fun c hc => ?_, fun c hc => ?_, ?_,
    fun hnone => hpresent none hnone rfl,
    fun d hd => ?_, fun d d' hd hd' hname => ?_⟩
  · obtain ⟨c, hc, -⟩ := hargs none hnone
    exact absurd hc (by simp)
  · exact hindex.placed c (by simpa using hc)
  · obtain ⟨c', hc', hargs'⟩ := hargs (some c) hc
    rwa [Option.some.inj hc']
  · refine List.pairwise_map.mpr (hindex.pairwise_compatible.imp fun hcc c hc c' hc' => ?_)
    rw [Option.mem_def, Option.some.injEq] at hc hc'
    exact hc ▸ hc' ▸ hcc
  · obtain ⟨decl, hdecl, hname, -, hv⟩ := hown d hd
    exact ⟨hname ▸ build_names h decl hdecl, decl, hv⟩
  · obtain ⟨decl, hdecl, hdname, hdkey, -⟩ := hown d hd
    obtain ⟨decl', hdecl', hdname', hdkey', -⟩ := hown d' hd'
    obtain rfl : decl = decl' := List.inj_on_of_nodup_map hreg.nodup hdecl hdecl'
      (hdname.trans (hname.trans hdname'.symm))
    exact hdkey.symm.trans hdkey'

/-- `build` accepts exactly the admissible inputs, when drafts are told apart
by their keys and the multisets passed explicitly are among them. -/
theorem build_ok_iff (hkeys : (drafts.map (·.key)).Nodup)
    (hextra : ∀ d, some d ∈ extra → d ∈ drafts) :
    (∃ t, build drafts cmds extra = .ok t) ↔ Admissible drafts cmds extra :=
  ⟨fun ⟨_, h⟩ => admissible_of_build hkeys hextra h, build_exists⟩

end Build

end Table

end DroneProtocol
