import DroneProtocol.Proofs.Descriptor.Paths
import DroneProtocol.Proofs.Descriptor.Registration
import DroneProtocol.Proofs.Codegen.Planning

/-! # Compiling declares exactly the commands defined

Main statement: `compile_declares`. When no name carries a dot of its own
(`Undotted`), the table holds one command per definition, each as its
definition declares it (`CommandDeclared`). A dot breaks this: see
`dotted_feature_refiled`. -/

namespace DroneProtocol.Schema

/-- No name that compiling joins with dots carries a dot of its own: those
of the features, of their enums, and of the classes and commands of each. -/
structure Undotted (defs : List FeatureDef) : Prop where
  feature : ∀ d ∈ defs, '.' ∉ d.name.toList
  enum : ∀ d ∈ defs, ∀ e ∈ d.enums, '.' ∉ e.name.toList
  command : ∀ d ∈ defs, ∀ k ∈ commandDefs d, '.' ∉ k.1.toList ∧ '.' ∉ k.2.2.name.toList

/-- The enum `e` that the reference `ref` in feature `d` names: `g.E` names
the enum `E` of the feature `g`, a reference without a dot an enum of `d`. -/
def EnumNamed (defs : List FeatureDef) (d : FeatureDef) (ref : String) (e : EnumDef) : Prop :=
  if '.' ∈ ref.toList then ∃ g ∈ defs, e ∈ g.enums ∧ ref = g.name ++ "." ++ e.name
  else e ∈ d.enums ∧ e.name = ref

/-- The multiset definition `md` is one that the definitions declare under
`name`. -/
def MultisetNamed (defs : List FeatureDef) (name : String) (md : MultisetDef) : Prop :=
  ∃ g ∈ defs, md ∈ g.multisets ∧ md.name = name

/-- What an argument `a` of a command of table `t` keeps of the argument
definition `ad` of feature `d`: its name and type; for an enum or bitfield,
the table of the enum its reference names, and for a bitfield the base
(`u32` by default); for a multiset, the declaration in `t` of the multiset it
names, whose members are the commands of `t` under the full names its
definition lists, in order. -/
structure ArgDeclared (defs : List FeatureDef) (t : Table) (d : FeatureDef) (ad : ArgDef)
    (a : Arg) : Prop where
  name : a.name = ad.name
  type : ArgType.ofName? ad.type = some a.type
  enum : a.type = .enum ∨ a.type = .bitfield →
    ∃ e, EnumNamed defs d ad.enum e ∧ a.enumTable = some e.toTable
  base : a.type = .bitfield → ArgType.ofName? (if ad.base = "" then "u32" else ad.base) = some a.base
  multiset : a.type = .multiset → ∃ md decl, MultisetNamed defs ad.multiset md ∧
    decl ∈ t.multisets ∧ a.multiset = some decl.ref ∧
    md.members.map t.findByName? = decl.members.map some

/-- What a command `c` of table `t` keeps of the command definition `k.2.2`
of feature `d`, in the class named `k.1` (empty for none) and numbered
`k.2.1`: its path, its identity, the options it gives and its arguments. -/
structure CommandDeclared (defs : List FeatureDef) (t : Table) (d : FeatureDef)
    (k : String × UInt8 × CommandDef) (c : Command) : Prop where
  path : c.path = (d.name, if k.1 = "" then defaultClassName else k.1, k.2.2.name)
  identity : c.identity = ⟨d.id, k.2.1, k.2.2.id⟩
  delivery : parseBuffer k.2.2.buffer = some c.delivery
  timeout : parseTimeout k.2.2.timeout = some c.timeout
  list : parseList k.2.2.list = some c.list
  args : List.Forall₂ (ArgDeclared defs t d) k.2.2.args c.args

/-! ### Feature names -/

section Declare

variable {defs : List FeatureDef} {c : Compiler}

/-- Declaring refuses a feature name seen before, so the declared features
have distinct names. -/
theorem declare_names_nodup (h : declare defs = .ok c) : (defs.map (·.name)).Nodup := by
  obtain ⟨acc, hacc, -⟩ := Except.bind_eq_ok.mp h
  -- the names seen are those of the features declared so far, latest first
  refine (foldlM_run_nil (I := fun p (acc : Compiler × List String) =>
      acc.2 = (p.map (·.name)).reverse ∧ (p.map (·.name)).Nodup) ?_ ⟨rfl, List.nodup_nil⟩ hacc).2
  rintro p d ⟨c₁, seen⟩ acc' ⟨hseen, hnd⟩ hs
  unfold declareFeature at hs
  split at hs
  · cases hs
  rename_i hfresh
  obtain ⟨c₂, -, hs⟩ := Except.bind_eq_ok.mp hs
  obtain ⟨c₃, -, hs⟩ := Except.bind_eq_ok.mp hs
  cases hs
  simp only at hseen hfresh
  subst hseen
  have hnot : d.name ∉ p.map (·.name) := by simpa using hfresh
  refine ⟨by simp, ?_⟩
  rw [List.map_append, List.map_singleton]
  exact List.nodup_append.mpr ⟨hnd, List.nodup_singleton _, by simpa using hnot⟩

end Declare

/-! ### Members -/

/-- What the commands `b` recorded by name answer, in order, for the members
that the multiset definitions of `q` named `n` list. -/
def listedMembers (b : List (String × Command)) (q : List MultisetDef) (n : String) :
    List (Option Command) :=
  (q.filter (·.name == n)).flatMap fun md => md.members.map (b.lookup ·)

theorem listedMembers_append (b : List (String × Command)) (q : List MultisetDef)
    (md : MultisetDef) (n : String) :
    listedMembers b (q ++ [md]) n =
      listedMembers b q n ++ if n = md.name then md.members.map (b.lookup ·) else [] := by
  unfold listedMembers
  by_cases h : n = md.name
  · subst h
    simp [List.filter_append]
  · simp [List.filter_append, Ne.symm h, h]

theorem filter_name_eq_singleton : ∀ {q : List MultisetDef}, (q.map (·.name)).Nodup →
    ∀ {md : MultisetDef}, md ∈ q → q.filter (·.name == md.name) = [md]
  | [], _, _, hmd => absurd hmd List.not_mem_nil
  | a :: q, hnd, md, hmd => by
    obtain ⟨ha, hnd⟩ := List.nodup_cons.mp hnd
    rcases List.mem_cons.mp hmd with rfl | hmd
    · -- no later definition shares the name of the first
      have hnone : q.filter (·.name == md.name) = [] :=
        List.filter_eq_nil_iff.mpr fun x hx hxn =>
          ha (List.mem_map.mpr ⟨x, hx, beq_iff_eq.mp hxn⟩)
      simp [hnone]
    · have hne : a.name ≠ md.name := fun h => ha (List.mem_map.mpr ⟨md, hmd, h.symm⟩)
      simp [hne, filter_name_eq_singleton hnd hmd]

section Listed

variable {b : List (String × Command)} {c c' : Compiler}

/-- Adding the member `x` to the multisets named `N` appends what `b` answers
for `x` to what they hold. -/
theorem addMember_listed {F : String → List (Option Command)} {N x : String} {ns : List String}
    (h : c.byName = b ∧ ∀ m ∈ c.multisets, m.decl.members.map some =
      F m.decl.name ++ if m.decl.name = N then ns.map (b.lookup ·) else [])
    (ha : c.addMember N x = .ok c') :
    c'.byName = b ∧ ∀ m ∈ c'.multisets, m.decl.members.map some =
      F m.decl.name ++ if m.decl.name = N then (ns ++ [x]).map (b.lookup ·) else [] := by
  unfold Compiler.addMember at ha
  cases hl : c.byName.lookup x with
  | none => simp [hl] at ha
  | some cmd =>
    simp only [hl, Except.pure_eq_ok, Except.ok.injEq] at ha
    subst ha
    refine ⟨h.1, fun m' hm' => ?_⟩
    obtain ⟨m, hm, rfl⟩ := List.mem_map.mp hm'
    have hx : b.lookup x = some cmd := h.1 ▸ hl
    by_cases hN : m.decl.name = N
    · simp [hN, h.2 m hm, hx]
    · simp [hN, h.2 m hm]

theorem addMembers_listed {F : String → List (Option Command)} {md : MultisetDef}
    (h : c.byName = b ∧ ∀ m ∈ c.multisets, m.decl.members.map some = F m.decl.name)
    (ha : md.members.foldlM (Compiler.addMember md.name) c = .ok c') :
    c'.byName = b ∧ ∀ m ∈ c'.multisets, m.decl.members.map some =
      F m.decl.name ++ if m.decl.name = md.name then md.members.map (b.lookup ·) else [] :=
  foldlM_run_nil (I := fun ns c => c.byName = b ∧ ∀ m ∈ c.multisets, m.decl.members.map some =
      F m.decl.name ++ if m.decl.name = md.name then ns.map (b.lookup ·) else [])
    (fun hi ha => addMember_listed hi ha) (by simpa using h) ha

/-- Filling multisets without members gives each named as a definition is
what `b` answers for the members those definitions list. -/
theorem resolveMembers_listed {defs : List FeatureDef}
    (h : c.byName = b ∧ ∀ m ∈ c.multisets, m.decl.members = [])
    (hr : c.resolveMembers defs = .ok c') :
    c'.byName = b ∧ ∀ m ∈ c'.multisets,
      m.decl.members.map some = listedMembers b (defs.flatMap (·.multisets)) m.decl.name := by
  unfold Compiler.resolveMembers at hr
  -- features one after the other, and within each its multisets in order
  refine foldlM_run_nil (I := fun p c => c.byName = b ∧ ∀ m ∈ c.multisets,
      m.decl.members.map some = listedMembers b (p.flatMap (·.multisets)) m.decl.name)
    (fun {p d c₁ c₂} hi hd => ?_) ⟨h.1, fun m hm => by simp [h.2 m hm, listedMembers]⟩ hr
  have hrun := foldlM_run (I := fun q c => c.byName = b ∧ ∀ m ∈ c.multisets,
      m.decl.members.map some = listedMembers b q m.decl.name)
    (fun hi ha => by simpa only [listedMembers_append] using addMembers_listed hi ha) hi hd
  simpa using hrun

end Listed

/-! ### The compiled table -/

/-- Compiling one command more keeps the commands recorded by name among
those compiled, each under its own full name. -/
theorem namesFrom_own_grows {c₁ c₂ : Compiler} {cs : List CompiledCommand} {cc : CompiledCommand}
    (h : c₁.NamesFrom cs ∧ ∀ p ∈ c₁.byName, p.2.name = p.1) (hg : c₂.Grows c₁ cc) :
    c₂.NamesFrom (cs ++ [cc]) ∧ ∀ p ∈ c₂.byName, p.2.name = p.1 := by
  refine ⟨h.1.grows hg, fun p hp => ?_⟩
  rcases hg.2 with hb | hb
  · exact h.2 p (hb ▸ hp)
  · rw [hb] at hp
    rcases List.mem_append.mp hp with hp | hp
    · exact h.2 p hp
    · rw [List.mem_singleton.mp hp]

section Compiled

variable {defs : List FeatureDef} {s : Compiled}

/-- Every compiled multiset is registered in the table, with its reference
and its members. -/
theorem compile_table_multiset (h : compile defs = .ok s) {m : CompiledMultiset}
    (hm : m ∈ s.multisets) :
    ∃ decl ∈ s.table.multisets, decl.ref = m.decl.ref ∧ decl.members = m.decl.members := by
  have hres := compile_resolves h
  have hreg := Table.build_registers (compile_build h)
  -- compiling passes every multiset explicitly, so the table registers it
  obtain ⟨decl, hdecl, hname, hkey⟩ :=
    hreg.complete _ (.explicit (List.mem_map_of_mem (List.mem_map_of_mem hm)))
  obtain ⟨d, hd, hv⟩ := hreg.sound decl hdecl
  -- the draft it was validated from is the one of the compiled multiset of its name
  have hdraft : d ∈ s.multisets.map (·.decl.toDraft) := by
    cases hd with
    | command _ hrefers =>
      obtain ⟨_, _, _, _, hfind⟩ := hrefers
      exact List.mem_of_find?_eq_some hfind
    | explicit hx => simpa using hx
  obtain ⟨m', hm', rfl⟩ := List.mem_map.mp hdraft
  obtain rfl : m' = m :=
    List.inj_on_of_nodup_map hres.multisetNames_nodup hm' hm (hv.name.symm.trans hname)
  refine ⟨decl, hdecl, ?_, ?_⟩
  · simp only [MultisetDecl.ref, hname, hkey]
    rfl
  · exact List.map_injective_iff.mpr (Option.some_injective _) hv.members.symm

/-- The members of a compiled multiset are what the commands recorded by name
answer for the names its definition lists; each command recorded is a
compiled one, under its own full name. -/
theorem compile_members_listed (h : compile defs = .ok s) {m : CompiledMultiset}
    (hm : m ∈ s.multisets) :
    ∃ b : List (String × Command),
      (∀ n x, (n, x) ∈ b → x.name = n ∧ x ∈ (s.features.flatMap (·.commands)).map (·.desc)) ∧
      m.decl.members.map some = m.source.members.map (b.lookup ·) := by
  obtain ⟨c, acc, done, hc, hacc, hdone, hms, hcmds, -⟩ := compile_eq_ok h
  have hres := compile_resolves h
  have hD := declared_declare hc
  obtain ⟨⟨hnames, hown⟩, hsame⟩ := compileFeatures_grows
    (P := fun c cs => c.NamesFrom cs ∧ ∀ p ∈ c.byName, p.2.name = p.1)
    (fun hi hg => namesFrom_own_grows hi hg) hD.toDeclares
    ⟨fun p hp => by simp [hD.byName] at hp, fun p hp => by simp [hD.byName] at hp⟩ hacc
  obtain ⟨-, hlisted⟩ :=
    resolveMembers_listed ⟨rfl, fun m hm => hD.members m (hsame ▸ hm)⟩ hdone
  -- the only definition listing members for `m` is its own
  have hown_def : (defs.flatMap (·.multisets)).filter (·.name == m.decl.name) = [m.source] := by
    have hnd : ((defs.flatMap (·.multisets)).map (·.name)).Nodup := by
      simpa [declaredMultisets, List.map_flatMap, Function.comp_def] using hres.multisetNames
    obtain ⟨g, hg, hsrc, -⟩ := hres.declared_of_mem hm
    rw [hres.names m hm]
    exact filter_name_eq_singleton hnd (List.mem_flatMap.mpr ⟨g, hg, hsrc⟩)
  refine ⟨acc.1.byName, fun n x hp => ?_, ?_⟩
  · obtain ⟨y, hy, hyx⟩ := hnames (n, x) hp
    exact ⟨hown (n, x) hp, List.mem_map.mpr ⟨y, hcmds ▸ hy, hyx⟩⟩
  · rw [hlisted m (hms ▸ hm), listedMembers, hown_def]
    simp

/-- Each member of a compiled multiset is the command that the table finds
under the full name its definition lists at that place. -/
theorem compile_multiset_members (h : compile defs = .ok s) {m : CompiledMultiset}
    (hm : m ∈ s.multisets) : m.source.members.map s.table.findByName? = m.decl.members.map some := by
  obtain ⟨b, hb, hmembers⟩ := compile_members_listed h hm
  rw [hmembers]
  refine List.map_congr_left fun n hn => ?_
  -- the name was found among the compiled commands, which the table finds by name
  obtain ⟨x, hx⟩ : ∃ x, b.lookup n = some x := by
    have hsome : b.lookup n ∈ m.decl.members.map some := hmembers ▸ List.mem_map_of_mem hn
    obtain ⟨x, -, hx⟩ := List.mem_map.mp hsome
    exact ⟨x, hx.symm⟩
  obtain ⟨hname, hmem⟩ := hb n x (mem_of_lookup_eq_some hx)
  rw [hx, ← hname]
  exact (compile_consistent h).find_own_name x hmem

end Compiled

/-! ### Each command as declared -/

section Declared

variable {defs : List FeatureDef} {s : Compiled} {d : FeatureDef}

/-- The enum found under the key of a reference is the one the reference
names, when no feature or enum name has a dot. -/
theorem enumNamed_of_lookup (hnd : (defs.map (·.name)).Nodup) (hu : Undotted defs) (hd : d ∈ defs)
    {ref : String} {e : EnumDef} (hl : (declaredEnums defs).lookup (enumKey d.name ref) = some e) :
    EnumNamed defs d ref e := by
  have hmem := mem_of_lookup_eq_some hl
  simp only [declaredEnums, List.mem_flatMap, List.mem_map, Prod.mk.injEq] at hmem
  obtain ⟨g, hg, e', he', hkey, rfl⟩ := hmem
  unfold EnumNamed
  unfold enumKey at hkey
  rw [String.contains_char_eq] at hkey
  by_cases hdot : '.' ∈ ref.toList
  · -- a qualified reference is the key itself
    simp only [hdot, decide_true, if_true] at hkey ⊢
    exact ⟨g, hg, he', hkey.symm⟩
  · -- an unqualified one is keyed in its own feature, which declares the enum
    simp only [hdot, decide_false, Bool.false_eq_true, if_false] at hkey ⊢
    obtain ⟨hname, href⟩ :=
      join_dot_inj (hu.feature g hg) (hu.feature d hd) (hu.enum g hg e' he') hdot hkey
    obtain rfl : g = d := List.inj_on_of_nodup_map hnd hg hd hname
    exact ⟨he', href⟩

/-- An argument compiled against all declarations is declared as its
definition says. -/
theorem ArgFrom.declared (h : compile defs = .ok s) (hu : Undotted defs) (hd : d ∈ defs)
    {ad : ArgDef} {a : Arg}
    (ha : ArgFrom (declaredEnums defs) (refsOf (declaredMultisets defs)) d.name ad a) :
    ArgDeclared defs s.table d ad a := by
  have hres := compile_resolves h
  obtain ⟨c, -, -, hc, -⟩ := compile_eq_ok h
  refine ⟨ha.name, ha.type, fun hty => ?_, ha.base, fun hty => ?_⟩
  · obtain ⟨e, hl, htable⟩ := ha.enum hty
    exact ⟨e, enumNamed_of_lookup (declare_names_nodup hc) hu hd hl, htable⟩
  · obtain ⟨r, hfind, hr⟩ := ha.multiset hty
    -- the reference is the one of the first compiled multiset of that name
    rw [← hres.refs, List.find?_map] at hfind
    obtain ⟨m, hm, rfl⟩ := Option.map_eq_some_iff.mp hfind
    have hmem := List.mem_of_find?_eq_some hm
    have hname : m.decl.name = ad.multiset := by simpa [MultisetDecl.ref] using List.find?_some hm
    obtain ⟨g, hg, hsrc, -⟩ := hres.declared_of_mem hmem
    obtain ⟨decl, hdecl, href, hmembers⟩ := compile_table_multiset h hmem
    refine ⟨m.source, decl, ⟨g, hg, hsrc, (hres.names m hmem).symm.trans hname⟩, hdecl,
      by rw [hr, href], ?_⟩
    rw [hmembers, compile_multiset_members h hmem]

/-- A command compiled against all declarations is declared as its
definition says. -/
theorem CommandFrom.declared (h : compile defs = .ok s) (hu : Undotted defs) (hd : d ∈ defs)
    {k : String × UInt8 × CommandDef} (hk : k ∈ commandDefs d) {cc : CompiledCommand}
    (hc : CommandFrom (declaredEnums defs) (refsOf (declaredMultisets defs)) d k cc) :
    CommandDeclared defs s.table d k cc.desc := by
  obtain ⟨hk₁, hk₂⟩ := hu.command d hd k hk
  refine ⟨?_, ?_, hc.delivery, hc.timeout, hc.list, hc.args.imp fun _ _ ha => ha.declared h hu hd⟩
  · have hname := hc.name
    by_cases hcls : k.1 = ""
    · rw [if_pos (String.isEmpty_iff.mpr hcls)] at hname
      rw [if_pos hcls]
      exact Command.path_of_join (hu.feature d hd) hk₂ hname
    · rw [if_neg (mt String.isEmpty_iff.mp hcls)] at hname
      rw [if_neg hcls]
      exact Command.path_of_join₃ (hu.feature d hd) hk₁ hk₂ hname
  · simp [Command.identity, hc.feature, hc.classId, hc.id]

theorem compile_commands_declared (h : compile defs = .ok s) (hu : Undotted defs)
    {f : CompiledFeature} (hf : f ∈ s.features) :
    List.Forall₂ (fun k cc => CommandDeclared defs s.table f.source k cc.desc)
      (commandDefs f.source) f.commands := by
  have hres := compile_resolves h
  have hd : f.source ∈ defs := hres.sources ▸ List.mem_map_of_mem hf
  exact ((List.forall₂_and_left _ _).mpr ⟨fun k hk => hk, hres.commands f hf⟩).imp
    fun k cc hkc => hkc.2.declared h hu hd hkc.1

/-- A defined feature with a command is filed in the table under its own name
and id. -/
theorem compile_files_feature (h : compile defs = .ok s) (hu : Undotted defs) (hd : d ∈ defs)
    (hne : commandDefs d ≠ []) : ∃ f ∈ s.table.features, f.name = d.name ∧ f.id = d.id := by
  have hindex := compile_consistent h
  -- the feature is filed where its first command is
  obtain ⟨k, hk⟩ := List.exists_mem_of_ne_nil _ hne
  obtain ⟨f, hf, rfl⟩ := (compile_resolves h).feature_of_mem hd
  obtain ⟨cc, hcc, hdecl⟩ := Codegen.exists_of_forall₂_mem_left (compile_commands_declared h hu hf) hk
  obtain ⟨F, hF, K, hK, hin⟩ :=
    hindex.filed _ (List.mem_map_of_mem (List.mem_flatMap.mpr ⟨f, hf, hcc⟩))
  have hpath := ((hindex.mem_class F hF K hK _).mp hin).2.1
  have hid : cc.desc.feature = f.source.id := congrArg Identity.feature hdecl.identity
  refine ⟨F, hF, ?_, ?_⟩
  · rw [← hpath, hdecl.path]
  · rw [← (hindex.class_ids F hF K hK _ hin).1, hid]

/-- Compiling definitions whose names carry no dot of their own gives a table
holding exactly the commands they define, one for each command definition,
each with the path, identity, options and arguments its definition declares;
and it files each feature that has a command under its own name and id. -/
theorem compile_declares (h : compile defs = .ok s) (hu : Undotted defs) :
    (∃ descs, List.Forall₂ (fun p c => CommandDeclared defs s.table p.1 p.2 c)
        (defs.flatMap fun d => (commandDefs d).map (d, ·)) descs ∧ s.table.commands.Perm descs) ∧
      ∀ d ∈ defs, commandDefs d ≠ [] → ∃ f ∈ s.table.features, f.name = d.name ∧ f.id = d.id := by
  refine ⟨⟨_, ?_, (compile_consistent h).commands_perm⟩,
    fun d hd hne => compile_files_feature h hu hd hne⟩
  -- the definitions are the features' sources, so both sides go feature by feature
  have hdefs : defs.flatMap (fun d => (commandDefs d).map (d, ·)) =
      s.features.flatMap fun f => (commandDefs f.source).map (f.source, ·) := by
    rw [← (compile_resolves h).sources, List.flatMap_map]
  rw [hdefs, List.map_flatMap]
  have hsame : List.Forall₂ (fun f f' => f = f' ∧ f ∈ s.features) s.features s.features :=
    List.forall₂_same.mpr fun f hf => ⟨rfl, hf⟩
  refine List.rel_flatMap hsame ?_
  rintro f _ ⟨rfl, hf⟩
  exact List.forall₂_map_left_iff.mpr
    (List.forall₂_map_right_iff.mpr (compile_commands_declared h hu hf))

end Declared

/-! ### Instances -/

theorem cycleFeature_undotted : Undotted [Codegen.cycleFeature] where
  feature d hd := by
    rw [List.mem_singleton.mp hd]
    decide
  enum d hd := by simp [List.mem_singleton.mp hd, Codegen.cycleFeature]
  command d hd k hk := by
    rw [List.mem_singleton.mp hd] at hk
    simp only [commandDefs, Codegen.cycleFeature, Codegen.cycleDefX, Codegen.cycleDefY,
      List.map_cons, List.map_nil, List.flatMap_nil, List.append_nil, List.mem_cons,
      List.not_mem_nil, or_false] at hk
    rcases hk with rfl | rfl <;> decide

/-- An instance: the schema with two multisets that carry each other compiles,
carries no dot in its names, and the statement above applies to it. -/
theorem compile_declares_cycle :
    compile [Codegen.cycleFeature] = .ok Codegen.cycleCompiled ∧ Undotted [Codegen.cycleFeature] ∧
      ((∃ descs, List.Forall₂
          (fun p c => CommandDeclared [Codegen.cycleFeature] Codegen.cycleCompiled.table p.1 p.2 c)
          ([Codegen.cycleFeature].flatMap fun d => (commandDefs d).map (d, ·)) descs ∧
          Codegen.cycleCompiled.table.commands.Perm descs) ∧
        ∀ d ∈ [Codegen.cycleFeature], commandDefs d ≠ [] →
          ∃ f ∈ Codegen.cycleCompiled.table.features, f.name = d.name ∧ f.id = d.id) :=
  ⟨Codegen.compile_cycle, cycleFeature_undotted,
    compile_declares Codegen.compile_cycle cycleFeature_undotted⟩

def dottedFeature : FeatureDef := { name := "a.b", id := 1, commands := [{ name := "c" }] }

def dottedCommand : Command := { name := "a.b.c", feature := 1, cls := 0, id := 0, delivery := .ack }

/-- What `dottedFeature` compiles to: its command filed in the class `b` of a
feature `a`. -/
def dottedCompiled : Compiled where
  table := Table.sorted ⟨[dottedCommand], [⟨"a", 1, [⟨"b", 0, false, [dottedCommand]⟩]⟩], [], []⟩
  features := [{ source := dottedFeature, enums := [],
                 commands := [⟨{ name := "c" }, dottedCommand, ""⟩] }]
  multisets := []

theorem dottedCommand_splitOn : dottedCommand.name.splitOn "." = ["a", "b", "c"] := by
  simp +decide only [String.splitOn, ↓reduceIte, dottedCommand, String.splitOnAux,
    String.Pos.Raw.unoffsetBy_zero, List.reverse_cons, List.reverse_nil, List.nil_append,
    List.cons_append, List.cons.injEq]

theorem build_dotted : Table.build [] [some dottedCommand] [] = .ok dottedCompiled.table := by
  have hp : Table.place dottedCommand = .ok ("a", "b", "c", false) := by
    simp [Table.place, dottedCommand_splitOn]
  have hadd : Table.empty.add dottedCommand =
      .ok ⟨[dottedCommand], [⟨"a", 1, [⟨"b", 0, false, [dottedCommand]⟩]⟩], [], []⟩ := by
    simp only [Table.add, hp]
    simp [Table.featureFor, Table.classFor, Table.refile, Table.empty, FeatureInfo.cls?,
      ClassInfo.command?, dottedCommand]
  have hcmd : Table.addCommand [] Table.empty (some dottedCommand) =
      .ok ⟨[dottedCommand], [⟨"a", 1, [⟨"b", 0, false, [dottedCommand]⟩]⟩], [], []⟩ := by
    simp only [Table.addCommand, hadd]
    rfl
  simp only [Table.build, List.foldlM_cons, List.foldlM_nil, hcmd, Except.ok_bind]
  rfl

theorem compile_dotted : compile [dottedFeature] = .ok dottedCompiled := by
  simp [dottedFeature, compile, declare, declareFeature, compileNext, Compiler.compileFeature,
    Compiler.compileStep, Compiler.compileCommand, Compiler.resolveMembers, parseBuffer,
    parseTimeout, parseList]
  simp only [← dottedCommand.eq_1, build_dotted]
  rfl

/-- The feature `a.b` compiles, but its command is filed as the command `c` of
the class `b` of a feature `a`, and no feature of the table is named `a.b`. -/
theorem dotted_feature_refiled :
    compile [dottedFeature] = .ok dottedCompiled ∧
      dottedCompiled.table.commands.map Command.path = [("a", "b", "c")] ∧
      ∀ f ∈ dottedCompiled.table.features, f.name ≠ dottedFeature.name := by
  refine ⟨compile_dotted, ?_, ?_⟩
  · simp [dottedCompiled, Table.sorted, Command.path, dottedCommand_splitOn]
  · simp [dottedCompiled, Table.sorted, dottedFeature]

end DroneProtocol.Schema
