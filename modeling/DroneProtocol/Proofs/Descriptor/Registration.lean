import Mathlib.Data.List.Nodup
import DroneProtocol.Descriptor.Table
import DroneProtocol.Proofs.Wire.Reading
import DroneProtocol.Proofs.Descriptor.Filing

/-! # Which multisets a table registers

Registration does not follow the multiset arguments of members, so a draft
reached only through a member is neither registered nor checked. Main
statements: `build_multisets_named` and `build_skips_nested_multiset`. -/

namespace DroneProtocol

/-- A command refers to draft `d` when one of its arguments names a key that
`d` is the first draft to carry. -/
def Command.RefersTo (drafts : List MultisetDraft) (cmd : Command) (d : MultisetDraft) : Prop :=
  ∃ a ∈ cmd.args, ∃ r, a.multiset = some r ∧ drafts.find? (·.key == r.key) = some d

namespace MultisetDraft

/-- `decl` is the draft `d` validated: same name and key, every member
present, members with distinct identities, and member arguments that pass the
checks a table command passes. -/
structure ValidatedAs (drafts : List MultisetDraft) (d : MultisetDraft) (decl : MultisetDecl) :
    Prop where
  name : decl.name = d.name
  key : decl.key = d.key
  members : d.members = decl.members.map some
  distinct : (decl.members.map Command.identity).Nodup
  args : ∀ m ∈ decl.members, m.checkArgs drafts = .ok ()

end MultisetDraft

namespace Table

/-- The drafts a table names directly: those a table command refers to and
those passed explicitly. -/
inductive Names (drafts : List MultisetDraft) (cmds : List (Option Command))
    (extra : List (Option MultisetDraft)) : MultisetDraft → Prop
  | command {cmd : Command} {d : MultisetDraft} :
      some cmd ∈ cmds → cmd.RefersTo drafts d → Names drafts cmds extra d
  | explicit {d : MultisetDraft} : some d ∈ extra → Names drafts cmds extra d

/-- The drafts a table reaches: those it names and, at any depth, those that a
member of a reached draft refers to. -/
inductive Reaches (drafts : List MultisetDraft) (cmds : List (Option Command))
    (extra : List (Option MultisetDraft)) : MultisetDraft → Prop
  | named {d : MultisetDraft} : Names drafts cmds extra d → Reaches drafts cmds extra d
  | member {d d' : MultisetDraft} {m : Command} :
      Reaches drafts cmds extra d → some m ∈ d.members → m.RefersTo drafts d' →
        Reaches drafts cmds extra d'

theorem add_eq_ok {t t' : Table} {cmd : Command} (h : t.add cmd = .ok t') :
    ∃ features, t' = { t with commands := t.commands ++ [cmd], features } := by
  obtain ⟨-, _, _, _, _, _, _, -, -, -, -, rfl⟩ := add_eq_ok_iff.mp h
  exact ⟨_, rfl⟩

theorem add_multisets {t t' : Table} {cmd : Command} (h : t.add cmd = .ok t') :
    t'.multisets = t.multisets := by
  obtain ⟨_, rfl⟩ := add_eq_ok h
  rfl

variable {drafts : List MultisetDraft}

/-- What registration keeps of the drafts `named` so far, over the registered
declarations `ms`: one declaration a name, each the validated form of a named
draft, and each named draft registered under its name with its key. -/
structure Registers (drafts : List MultisetDraft) (named : MultisetDraft → Prop) (ms : Catalog) :
    Prop where
  nodup : (ms.map (·.name)).Nodup
  sound : ∀ decl ∈ ms, ∃ d, named d ∧ d.ValidatedAs drafts decl
  complete : ∀ d, named d → ∃ decl ∈ ms, decl.name = d.name ∧ decl.key = d.key

theorem Registers.nil : Registers drafts (fun _ => False) [] :=
  ⟨List.nodup_nil, by simp, by simp⟩

theorem Registers.congr {named named' : MultisetDraft → Prop} {ms : Catalog}
    (h : Registers drafts named ms) (hiff : ∀ d, named d ↔ named' d) :
    Registers drafts named' ms where
  nodup := h.nodup
  sound decl hdecl := by
    obtain ⟨d, hd, hv⟩ := h.sound decl hdecl
    exact ⟨d, (hiff d).mp hd, hv⟩
  complete d hd := h.complete d ((hiff d).mpr hd)

/-- The member walk of `addMultiset` accepts exactly present members with
fresh identities and valid arguments, and returns them in order. -/
theorem addMultiset_go_eq_ok {ms : MultisetDraft} :
    ∀ {l : List (Option Command)} {acc res : List Command},
      (acc.reverse.map Command.identity).Nodup → addMultiset.go drafts ms l acc = .ok res →
      ∃ members, l = members.map some ∧ res = acc.reverse ++ members ∧
        (res.map Command.identity).Nodup ∧ ∀ m ∈ members, m.checkArgs drafts = .ok ()
  | [], acc, res, hnd, h => by
    simp only [addMultiset.go, Except.pure_eq_ok, Except.ok.injEq] at h
    subst h
    exact ⟨[], rfl, by simp, hnd, by simp⟩
  | none :: _, _, _, _, h => by simp [addMultiset.go] at h
  | some m :: rest, acc, res, hnd, h => by
    simp only [addMultiset.go] at h
    split at h
    · simp at h
    · rename_i hfresh
      obtain ⟨⟨⟩, hargs, h⟩ := Except.bind_eq_ok.mp h
      have hnew : m.identity ∉ acc.reverse.map Command.identity := by
        simp only [List.mem_map, not_exists, not_and]
        intro prev hprev hid
        cases hfind : acc.reverse.find? (·.identity == m.identity) with
        | none => exact List.find?_eq_none.mp hfind prev hprev (by simp [hid])
        | some p => exact hfresh p hfind
      have hnd' : ((m :: acc).reverse.map Command.identity).Nodup := by
        rw [List.reverse_cons, List.map_append, List.nodup_append]
        refine ⟨hnd, List.nodup_singleton _, fun a ha b hb hab => ?_⟩
        rw [List.map_singleton, List.mem_singleton] at hb
        subst hab hb
        exact hnew ha
      obtain ⟨members, rfl, rfl, hres, hmembers⟩ := addMultiset_go_eq_ok hnd' h
      refine ⟨m :: members, rfl, by simp, hres, ?_⟩
      simp only [List.mem_cons, forall_eq_or_imp]
      exact ⟨hargs, hmembers⟩

section Step

variable {named : MultisetDraft → Prop} {ms : Catalog} {d : MultisetDraft}

theorem Registers.sound_or (hinv : Registers drafts named ms) {P : MultisetDraft → Prop} :
    ∀ decl ∈ ms, ∃ d, (named d ∨ P d) ∧ d.ValidatedAs drafts decl := fun decl hdecl => by
  obtain ⟨d, hd, hv⟩ := hinv.sound decl hdecl
  exact ⟨d, .inl hd, hv⟩

theorem Registers.of_registered (hinv : Registers drafts named ms)
    (hreg : ∃ decl ∈ ms, decl.name = d.name ∧ decl.key = d.key) :
    Registers drafts (fun d' => named d' ∨ d' = d) ms where
  nodup := hinv.nodup
  sound := hinv.sound_or
  complete d' hd' := by
    rcases hd' with hd' | rfl
    exacts [hinv.complete d' hd', hreg]

theorem Registers.append {decl : MultisetDecl} (hinv : Registers drafts named ms)
    (hfresh : d.name ∉ ms.map (·.name)) (hv : d.ValidatedAs drafts decl) :
    Registers drafts (fun d' => named d' ∨ d' = d) (ms ++ [decl]) where
  nodup := by
    rw [List.map_append, List.map_singleton, hv.name]
    exact List.nodup_append.mpr ⟨hinv.nodup, List.nodup_singleton _,
      fun a ha b hb hab => hfresh (by simp_all)⟩
  sound decl' hdecl' := by
    rcases List.mem_append.mp hdecl' with hdecl' | hdecl'
    · exact hinv.sound_or decl' hdecl'
    · rw [List.mem_singleton.mp hdecl']
      exact ⟨d, .inr rfl, hv⟩
  complete d' hd' := by
    rcases hd' with hd' | rfl
    · obtain ⟨decl', hdecl', hname⟩ := hinv.complete d' hd'
      exact ⟨decl', List.mem_append_left _ hdecl', hname⟩
    · exact ⟨decl, List.mem_append_right _ (List.mem_singleton_self _), hv.name, hv.key⟩

end Step

/-- Registering a draft keeps the invariant, with the draft now among the
named ones: a name already registered is accepted again only with the same
key, and a new name is registered with members the walk has validated. -/
theorem addMultiset_registers {named : MultisetDraft → Prop} {t t' : Table} {ms : MultisetDraft}
    (hinv : Registers drafts named t.multisets) (h : addMultiset drafts t ms = .ok t') :
    Registers drafts (fun d => named d ∨ d = ms) t'.multisets := by
  unfold addMultiset at h
  cases hprev : t.multisets.find? (·.name == ms.name) with
  | some prev =>
    simp only [hprev] at h
    split at h
    · rename_i hkey
      cases h
      refine hinv.of_registered ⟨prev, List.mem_of_find?_eq_some hprev, ?_, by simpa using hkey⟩
      simpa using List.find?_some hprev
    · simp at h
  | none =>
    simp only [hprev] at h
    split at h
    · simp at h
    · obtain ⟨members, hgo, h⟩ := Except.bind_eq_ok.mp h
      cases h
      obtain ⟨members, hms, rfl, hnd, hargs⟩ := addMultiset_go_eq_ok (by simp) hgo
      have hfresh : ms.name ∉ t.multisets.map (·.name) := by
        simp only [List.mem_map, not_exists, not_and]
        intro decl hdecl hname
        exact List.find?_eq_none.mp hprev decl hdecl (by simp [hname])
      exact hinv.append hfresh ⟨rfl, rfl, by simpa using hms, by simpa using hnd, by simpa using hargs⟩

section Fold

variable {α : Type} {f : Table → α → Except TableError Table} {N : α → MultisetDraft → Prop}

/-- A fold whose every step registers the drafts its element names registers
the drafts that any element names. -/
theorem foldlM_registers {l : List α} {named : MultisetDraft → Prop} {t t' : Table}
    (hinv : Registers drafts named t.multisets) (h : l.foldlM f t = .ok t')
    (step : ∀ {named : MultisetDraft → Prop} {t t' : Table} {a : α},
      Registers drafts named t.multisets → f t a = .ok t' →
        Registers drafts (fun d => named d ∨ N a d) t'.multisets) :
    Registers drafts (fun d => named d ∨ ∃ a ∈ l, N a d) t'.multisets := by
  -- the drafts registered so far are those the elements folded so far name
  refine foldlM_run_nil (I := fun p t => Registers drafts (fun d => named d ∨ ∃ a ∈ p, N a d)
    t.multisets) (fun hi hs => (step hi hs).congr fun d => ?_) (hinv.congr (by simp)) h
  simp only [List.mem_append, List.mem_singleton, or_and_right, exists_or, exists_eq_left,
    or_assoc]

end Fold

theorem mem_found_iff {cmd : Command} {d : MultisetDraft} :
    d ∈ (cmd.args.filterMap (·.multiset)).filterMap (fun r => drafts.find? (·.key == r.key)) ↔
      cmd.RefersTo drafts d := by
  simp only [List.mem_filterMap, Command.RefersTo]
  constructor
  · rintro ⟨r, ⟨a, ha, hr⟩, hd⟩
    exact ⟨a, ha, r, hr, hd⟩
  · rintro ⟨a, ha, r, hr, hd⟩
    exact ⟨r, ⟨a, ha, hr⟩, hd⟩

/-- A command that is added registers the drafts it refers to; a missing
command is refused. -/
theorem addCommand_registers {named : MultisetDraft → Prop} {t t' : Table} {c : Option Command}
    (hinv : Registers drafts named t.multisets) (h : addCommand drafts t c = .ok t') :
    Registers drafts (fun d => named d ∨ ∃ cmd, c = some cmd ∧ cmd.RefersTo drafts d)
      t'.multisets := by
  cases c with
  | none => simp [addCommand] at h
  | some cmd =>
    simp only [addCommand] at h
    obtain ⟨t₁, hadd, h⟩ := Except.bind_eq_ok.mp h
    obtain ⟨⟨⟩, -, h⟩ := Except.bind_eq_ok.mp h
    rw [← add_multisets hadd] at hinv
    refine (foldlM_registers hinv h addMultiset_registers).congr fun d => or_congr_right ?_
    constructor
    · rintro ⟨_, hfound, rfl⟩
      exact ⟨cmd, rfl, mem_found_iff.mp hfound⟩
    · rintro ⟨_, ⟨⟩, hd⟩
      exact ⟨d, mem_found_iff.mpr hd, rfl⟩

theorem addExtra_registers {named : MultisetDraft → Prop} {t t' : Table}
    {o : Option MultisetDraft} (hinv : Registers drafts named t.multisets)
    (h : (match o with
      | none => throw TableError.missingMultiset
      | some ms => addMultiset drafts t ms) = .ok t') :
    Registers drafts (fun d => named d ∨ o = some d) t'.multisets := by
  cases o with
  | none => simp at h
  | some ms => exact (addMultiset_registers hinv h).congr (by simp [eq_comm])

/-- Registration does not depend on the order of the declarations. -/
theorem Registers.perm {named : MultisetDraft → Prop} {ms ms' : Catalog}
    (h : Registers drafts named ms) (hp : ms'.Perm ms) : Registers drafts named ms' where
  nodup := ((hp.map _).nodup_iff).mpr h.nodup
  sound decl hdecl := h.sound decl (hp.mem_iff.mp hdecl)
  complete d hd := by
    obtain ⟨decl, hdecl, hname⟩ := h.complete d hd
    exact ⟨decl, hp.mem_iff.mpr hdecl, hname⟩

theorem build_registers {cmds : List (Option Command)} {extra : List (Option MultisetDraft)}
    {t : Table} (h : build drafts cmds extra = .ok t) :
    Registers drafts (Names drafts cmds extra) t.multisets := by
  obtain ⟨t₁, h₁, hrest⟩ := Except.bind_eq_ok.mp h
  obtain ⟨t₂, h₂, hsorted⟩ := Except.bind_eq_ok.mp hrest
  cases hsorted
  have hreg := foldlM_registers (foldlM_registers Registers.nil h₁ addCommand_registers) h₂
    addExtra_registers
  refine (hreg.perm (List.mergeSort_perm _ _)).congr fun d => ⟨?_, ?_⟩
  · rintro ((hnone | ⟨_, hcmd, cmd, rfl, hd⟩) | ⟨_, hd, rfl⟩)
    · exact hnone.elim
    · exact .command hcmd hd
    · exact .explicit hd
  · intro hd
    cases hd with
    | command hcmd hd => exact .inl (.inr ⟨_, hcmd, _, rfl, hd⟩)
    | explicit hd => exact .inr ⟨_, hd, rfl⟩

theorem find?_name_of_mem {ms : Catalog} {decl : MultisetDecl} (hnd : (ms.map (·.name)).Nodup)
    (hdecl : decl ∈ ms) : ms.find? (·.name == decl.name) = some decl :=
  (List.find?_key_eq_some hnd).mpr ⟨hdecl, rfl⟩

/-- A table registers exactly the multiset drafts that its commands refer to
or that are passed explicitly: each registered declaration is such a draft
validated (members present, with distinct identities and arguments that pass
the checks of a table command), and each such draft is what the table
returns under its name. Drafts reached only through members are not among
them. -/
theorem build_multisets_named {cmds : List (Option Command)} {extra : List (Option MultisetDraft)}
    {t : Table} (h : build drafts cmds extra = .ok t) :
    (∀ decl ∈ t.multisets, ∃ d, Names drafts cmds extra d ∧ d.ValidatedAs drafts decl) ∧
      ∀ d, Names drafts cmds extra d →
        ∃ decl, t.multiset? d.name = some decl ∧ decl.key = d.key := by
  have hreg := build_registers h
  refine ⟨hreg.sound, fun d hd => ?_⟩
  obtain ⟨decl, hdecl, hname, hkey⟩ := hreg.complete d hd
  exact ⟨decl, hname ▸ find?_name_of_mem hreg.nodup hdecl, hkey⟩

/-- A draft whose only member is missing. -/
def innerDraft : MultisetDraft := ⟨"inner", 0, [none]⟩

def innerCarrier : Command :=
  { name := "x.Y", feature := 5, cls := 0, id := 0,
    args := [{ name := "sub", type := .multiset, multiset := some ⟨"inner", 0⟩ }] }

def outerDraft : MultisetDraft := ⟨"outer", 1, [some innerCarrier]⟩

def outerTable : Table :=
  sorted ⟨[], [], [⟨"outer", 1, [innerCarrier]⟩], [⟨"outer", 1, [innerCarrier]⟩]⟩

/-- The table with `outerDraft` passed explicitly registers it alone, and
registers it validated. -/
theorem build_multisets_outer :
    build [innerDraft, outerDraft] [] [some outerDraft] = .ok outerTable ∧
      (∀ decl ∈ outerTable.multisets,
        ∃ d, Names [innerDraft, outerDraft] [] [some outerDraft] d ∧
          d.ValidatedAs [innerDraft, outerDraft] decl) ∧
      ∀ d, Names [innerDraft, outerDraft] [] [some outerDraft] d →
        ∃ decl, outerTable.multiset? d.name = some decl ∧ decl.key = d.key :=
  ⟨rfl, build_multisets_named rfl⟩

/-- A draft that a table reaches only through a member is neither registered
nor checked: the table with `outerDraft` passed explicitly builds, yet it does
not register `innerDraft`, which it reaches through the member of `outerDraft`
and which registration refuses for its missing member. -/
theorem build_skips_nested_multiset :
    Reaches [innerDraft, outerDraft] [] [some outerDraft] innerDraft ∧
      ∃ t, build [innerDraft, outerDraft] [] [some outerDraft] = .ok t ∧
        t.multiset? innerDraft.name = none ∧
        addMultiset [innerDraft, outerDraft] t innerDraft = .error (.missingMember innerDraft.name) := by
  have houter : Reaches [innerDraft, outerDraft] [] [some outerDraft] outerDraft :=
    .named (.explicit (List.mem_singleton_self _))
  refine ⟨.member houter (List.mem_singleton_self _) ⟨_, List.mem_singleton_self _, _, rfl, rfl⟩,
    outerTable, rfl, ?_⟩
  -- the table registers `outerDraft` alone
  have hmultisets : outerTable.multisets = [⟨"outer", 1, [innerCarrier]⟩] :=
    List.mergeSort_singleton _
  have hnone : outerTable.multisets.find? (·.name == innerDraft.name) = none := by
    rw [hmultisets]
    rfl
  refine ⟨hnone, ?_⟩
  simp only [addMultiset, hnone]
  rfl

end Table

end DroneProtocol
