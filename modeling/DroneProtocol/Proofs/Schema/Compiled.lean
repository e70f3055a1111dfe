import Mathlib
import DroneProtocol.Codegen.Plan
import DroneProtocol.Proofs.Descriptor.Acceptance

/-! # What compiling a schema guarantees

Compiling declares every enum and multiset before any reference, and only
fills them in afterwards. Main statement: `compile_resolves`, every compiled
command comes from its definition, each argument resolved against the
declarations the compiled schema lists (`ArgFrom`). -/

namespace DroneProtocol

def MultisetDecl.toDraft (d : MultisetDecl) : MultisetDraft := ⟨d.name, d.key, d.members.map some⟩

end DroneProtocol

namespace DroneProtocol.Schema

theorem lookup_map_snd {α β γ : Type} [BEq α] (g : β → γ) :
    ∀ (l : List (α × β)) (k : α), (l.map fun p => (p.1, g p.2)).lookup k = (l.lookup k).map g
  | [], _ => rfl
  | (k', b) :: l, k => by
    simp only [List.map_cons, List.lookup_cons]
    split <;> simp [lookup_map_snd g l k]

/-- The enums that definitions declare, each under its key `feature.Enum`. -/
def declaredEnums (defs : List FeatureDef) : List (String × EnumDef) :=
  defs.flatMap fun d => d.enums.map fun e => (d.name ++ "." ++ e.name, e)

def declaredMultisets (defs : List FeatureDef) : List (MultisetDef × String) :=
  defs.flatMap fun d => d.multisets.map fun m => (m, d.name)

/-- References to the multisets `M`, each by name and by its place. -/
def refsOf (M : List (MultisetDef × String)) : List MultisetRef :=
  M.zipIdx.map fun p => ⟨p.1.1.name, p.2⟩

theorem refsOf_names (M : List (MultisetDef × String)) :
    (refsOf M).map (·.name) = M.map (·.1.name) :=
  calc (refsOf M).map (·.name) = (M.zipIdx.map Prod.fst).map (·.1.name) := by
        simp only [refsOf, List.map_map]
        rfl
    _ = M.map (·.1.name) := by rw [List.zipIdx_map_fst]

namespace Compiler

/-- The view of a compiler's declarations that compiling commands and
resolving members never changes. -/
structure Declares (c : Compiler) (E : List (String × EnumDef)) (M : List (MultisetDef × String)) :
    Prop where
  enums : c.enums.map (fun p => (p.1, p.2.source)) = E
  tables : ∀ p ∈ c.enums, p.2.table = p.2.source.toTable
  multisets : c.multisets.map (fun m => (m.source, m.owner)) = M
  names : ∀ m ∈ c.multisets, m.decl.name = m.source.name
  keys : c.multisets.map (·.decl.key) = List.range c.multisets.length

/-- A compiler holding only declarations: distinct enum keys, distinct
multiset names, no command yet and no member yet. -/
structure Declared (c : Compiler) (E : List (String × EnumDef)) (M : List (MultisetDef × String)) :
    Prop extends c.Declares E M where
  enumKeys : (E.map Prod.fst).Nodup
  multisetNames : (M.map (·.1.name)).Nodup
  byName : c.byName = []
  members : ∀ m ∈ c.multisets, m.decl.members = []

theorem declared_empty : ({} : Compiler).Declared [] [] where
  enums := rfl
  tables := by simp
  multisets := rfl
  names := by simp
  keys := rfl
  enumKeys := List.nodup_nil
  multisetNames := List.nodup_nil
  byName := rfl
  members := by simp

end Compiler

section Declare

open Compiler

variable {fname : String} {c c' : Compiler} {E : List (String × EnumDef)}
  {M : List (MultisetDef × String)}

theorem declareEnum_eq_ok {e : EnumDef} :
    declareEnum fname c e = .ok c' ↔ c.enums.lookup (fname ++ "." ++ e.name) = none ∧
      c' = { c with enums := c.enums ++ [(fname ++ "." ++ e.name, { source := e, table := e.toTable })] } := by
  unfold declareEnum
  cases h : c.enums.lookup (fname ++ "." ++ e.name) with
  | none =>
    simp only [h, Option.isSome_none, Bool.false_eq_true, ↓reduceIte, Except.pure_eq_ok,
      Except.ok.injEq, true_and]
    exact eq_comm
  | some _ => simp [h]

theorem declareMultiset_eq_ok {m : MultisetDef} :
    declareMultiset fname c m = .ok c' ↔ c.multisets.any (·.decl.name == m.name) = false ∧
      c' = { c with multisets := c.multisets ++
        [{ source := m, decl := ⟨m.name, c.multisets.length, []⟩, owner := fname }] } := by
  unfold declareMultiset
  cases c.multisets.any (·.decl.name == m.name) with
  | false =>
    simp only [Bool.false_eq_true, ↓reduceIte, Except.pure_eq_ok, Except.ok.injEq, true_and]
    exact eq_comm
  | true => simp

theorem declared_declareEnum {e : EnumDef} (h : c.Declared E M) (he : declareEnum fname c e = .ok c') :
    c'.Declared (E ++ [(fname ++ "." ++ e.name, e)]) M := by
  obtain ⟨hnone, rfl⟩ := declareEnum_eq_ok.mp he
  -- the new key is not among the declared ones
  have hkey : fname ++ "." ++ e.name ∉ E.map Prod.fst := by
    have := lookup_map_snd (·.source) c.enums (fname ++ "." ++ e.name)
    rw [h.enums, hnone, Option.map_none] at this
    rw [← lookup_eq_none_iff_not_mem_fst]
    exact this
  exact { h with
    enums := by simp [h.enums]
    tables := by
      intro p hp
      rcases List.mem_append.mp hp with hp | hp
      · exact h.tables p hp
      · simp [List.mem_singleton.mp hp]
    enumKeys := by
      rw [List.map_append, List.map_singleton, ← List.concat_eq_append, List.nodup_concat]
      exact ⟨hkey, h.enumKeys⟩ }

theorem declared_declareMultiset {m : MultisetDef} (h : c.Declared E M)
    (hm : declareMultiset fname c m = .ok c') : c'.Declared E (M ++ [(m, fname)]) := by
  obtain ⟨hnone, rfl⟩ := declareMultiset_eq_ok.mp hm
  -- the names already declared are those of the compiler's multisets
  have hnames : M.map (·.1.name) = c.multisets.map (·.decl.name) := by
    rw [← h.multisets, List.map_map]
    exact List.map_congr_left fun m hm => (h.names m hm).symm
  have hname : m.name ∉ M.map (·.1.name) := by
    rw [hnames]
    simpa using hnone
  exact { h with
    multisets := by simp [h.multisets]
    names := by
      intro x hx
      rcases List.mem_append.mp hx with hx | hx
      · exact h.names x hx
      · simp [List.mem_singleton.mp hx]
    keys := by simp [h.keys, List.range_succ]
    multisetNames := by
      rw [List.map_append, List.map_singleton, ← List.concat_eq_append, List.nodup_concat]
      exact ⟨hname, h.multisetNames⟩
    members := by
      intro x hx
      rcases List.mem_append.mp hx with hx | hx
      · exact h.members x hx
      · simp [List.mem_singleton.mp hx] }

theorem declaredEnums_append (p : List FeatureDef) (d : FeatureDef) :
    declaredEnums (p ++ [d]) =
      declaredEnums p ++ d.enums.map fun e => (d.name ++ "." ++ e.name, e) := by
  simp [declaredEnums]

theorem declaredMultisets_append (p : List FeatureDef) (d : FeatureDef) :
    declaredMultisets (p ++ [d]) = declaredMultisets p ++ d.multisets.map fun m => (m, d.name) := by
  simp [declaredMultisets]

theorem declared_declareFeature {acc acc' : Compiler × List String} {p : List FeatureDef}
    {d : FeatureDef} (h : acc.1.Declared (declaredEnums p) (declaredMultisets p))
    (hd : declareFeature acc d = .ok acc') :
    acc'.1.Declared (declaredEnums (p ++ [d])) (declaredMultisets (p ++ [d])) := by
  unfold declareFeature at hd
  split at hd
  · cases hd
  · obtain ⟨c₁, h₁, hd⟩ := Except.bind_eq_ok.mp hd
    obtain ⟨c₂, h₂, hd⟩ := Except.bind_eq_ok.mp hd
    cases hd
    -- the enums of `d` are declared one after the other, then its multisets
    have hE : c₁.Declared (declaredEnums p ++ d.enums.map fun e => (d.name ++ "." ++ e.name, e))
        (declaredMultisets p) :=
      foldlM_run_nil (I := fun q c => c.Declared
          (declaredEnums p ++ q.map fun e => (d.name ++ "." ++ e.name, e)) (declaredMultisets p))
        (fun hi hs => by simpa using declared_declareEnum hi hs) (by simpa using h) h₁
    have hM : c₂.Declared (declaredEnums p ++ d.enums.map fun e => (d.name ++ "." ++ e.name, e))
        (declaredMultisets p ++ d.multisets.map fun m => (m, d.name)) :=
      foldlM_run_nil (I := fun q c => c.Declared
          (declaredEnums p ++ d.enums.map fun e => (d.name ++ "." ++ e.name, e))
          (declaredMultisets p ++ q.map fun m => (m, d.name)))
        (fun hi hs => by simpa using declared_declareMultiset hi hs) (by simpa using hE) h₂
    rw [declaredEnums_append, declaredMultisets_append]
    exact hM

theorem declared_declare {defs : List FeatureDef} (h : declare defs = .ok c) :
    c.Declared (declaredEnums defs) (declaredMultisets defs) := by
  obtain ⟨acc, hacc, hc⟩ := Except.bind_eq_ok.mp h
  cases hc
  exact foldlM_run_nil (I := fun p acc => acc.1.Declared (declaredEnums p) (declaredMultisets p))
    (fun hi hs => declared_declareFeature hi hs) declared_empty hacc

end Declare

namespace Compiler

variable {c : Compiler} {E : List (String × EnumDef)} {M : List (MultisetDef × String)}

theorem Declares.lookup (h : c.Declares E M) (k : String) :
    (c.enums.lookup k).map (·.source) = E.lookup k := by
  rw [← h.enums, lookup_map_snd]

theorem Declares.refs (h : c.Declares E M) : c.multisets.map (·.decl.ref) = refsOf M := by
  rw [← h.multisets]
  apply List.ext_getElem
  · simp [refsOf]
  · intro i h₁ h₂
    have hi : i < c.multisets.length := by simpa using h₁
    have hk : c.multisets[i].decl.key = i := by
      have := congrArg (fun l => l[i]?) h.keys
      simpa [hi] using this
    simp [refsOf, MultisetDecl.ref, h.names _ (List.getElem_mem hi), hk]

theorem Declares.markBitfield (h : c.Declares E M) (key : String) : (c.markBitfield key).Declares E M where
  enums := by
    rw [← h.enums, Compiler.markBitfield, List.map_map]
    refine List.map_congr_left fun p _ => ?_
    obtain ⟨k, e⟩ := p
    by_cases hk : k = key <;> simp [hk]
  tables := by
    intro p hp
    simp only [Compiler.markBitfield, List.mem_map] at hp
    obtain ⟨⟨k, e⟩, he, rfl⟩ := hp
    have hte : e.table = e.source.toTable := h.tables _ he
    by_cases hk : k = key <;> simp [hk, hte]
  multisets := h.multisets
  names := h.names
  keys := h.keys

theorem Declares.setByName (h : c.Declares E M) (b : List (String × Command)) :
    ({ c with byName := b } : Compiler).Declares E M :=
  ⟨h.enums, h.tables, h.multisets, h.names, h.keys⟩

end Compiler

/-- How an argument definition of a command of `feature` compiles, given the
declared enums `E` and the references `R` to the declared multisets: an enum
or bitfield argument carries the table its reference names, a bitfield its
base (`u32` by default), a multiset argument the first declaration of its
name, and no argument anything its type does not use. -/
structure ArgFrom (E : List (String × EnumDef)) (R : List MultisetRef) (feature : String)
    (ad : ArgDef) (a : Arg) : Prop where
  name : a.name = ad.name
  type : ArgType.ofName? ad.type = some a.type
  enum : a.type = .enum ∨ a.type = .bitfield →
    ∃ ed, E.lookup (enumKey feature ad.enum) = some ed ∧ a.enumTable = some ed.toTable
  noEnum : ¬(a.type = .enum ∨ a.type = .bitfield) → a.enumTable = none
  base : a.type = .bitfield → ArgType.ofName? (if ad.base = "" then "u32" else ad.base) = some a.base
  noBase : a.type ≠ .bitfield → a.base = .i8
  multiset : a.type = .multiset → ∃ r, R.find? (·.name == ad.multiset) = some r ∧ a.multiset = some r
  noMultiset : a.type ≠ .multiset → a.multiset = none

section Args

variable {E : List (String × EnumDef)} {M : List (MultisetDef × String)} {feature command : String}
  {ad : ArgDef} {c c' : Compiler} {a : Arg}

theorem ArgFrom.plain {R : List MultisetRef} {t : ArgType} (ht : ArgType.ofName? ad.type = some t)
    (he : t ≠ .enum) (hb : t ≠ .bitfield) (hm : t ≠ .multiset) :
    ArgFrom E R feature ad { name := ad.name, type := t } :=
  ⟨rfl, ht, fun h => by simp_all, fun _ => rfl, fun h => absurd h hb, fun _ => rfl,
    fun h => absurd h hm, fun _ => rfl⟩

theorem Compiler.Declares.lookupEnum (h : c.Declares E M) {key : String} {e : CompiledEnum}
    (hl : c.lookupEnum feature ad.enum = some (key, e)) :
    key = enumKey feature ad.enum ∧ E.lookup (enumKey feature ad.enum) = some e.source ∧
      e.table = e.source.toTable := by
  simp only [Compiler.lookupEnum, Option.map_eq_some_iff, Prod.mk.injEq] at hl
  obtain ⟨e', he', rfl, rfl⟩ := hl
  refine ⟨rfl, ?_, h.tables _ (mem_of_lookup_eq_some he')⟩
  rw [← h.lookup, he', Option.map_some]

/-- What compiling one argument does: it resolves the argument against the
declarations and changes none of them, nor the commands recorded by name or
the multisets. -/
theorem compileArg_spec (h : c.Declares E M) (ha : c.compileArg feature command ad = .ok (c', a)) :
    ArgFrom E (refsOf M) feature ad a ∧ c'.Declares E M ∧ c'.byName = c.byName ∧
      c'.multisets = c.multisets := by
  unfold Compiler.compileArg at ha
  cases ht : ArgType.ofName? ad.type with
  | none => simp [ht] at ha
  | some t =>
    simp only [ht] at ha
    cases t
    case enum =>
      cases hl : c.lookupEnum feature ad.enum with
      | none => simp [hl] at ha
      | some p =>
        obtain ⟨key, e⟩ := p
        simp [hl] at ha
        obtain ⟨rfl, rfl⟩ := ha
        obtain ⟨-, hE, htable⟩ := h.lookupEnum hl
        refine ⟨⟨rfl, ht, fun _ => ⟨e.source, hE, by rw [htable]⟩, fun h => absurd (Or.inl rfl) h,
          fun h => by simp at h, fun _ => rfl, fun h => by simp at h, fun _ => rfl⟩, h, rfl, rfl⟩
    case bitfield =>
      cases hl : c.lookupEnum feature ad.enum with
      | none => simp [hl] at ha
      | some p =>
        obtain ⟨key, e⟩ := p
        simp [hl] at ha
        cases hb : ArgType.ofName? (if ad.base = "" then "u32" else ad.base) with
        | none => simp [hb] at ha
        | some b =>
          simp [hb] at ha
          obtain ⟨rfl, rfl⟩ := ha
          obtain ⟨-, hE, htable⟩ := h.lookupEnum hl
          refine ⟨⟨rfl, ht, fun _ => ⟨e.source, hE, by rw [htable]⟩, fun h => absurd (Or.inr rfl) h,
            fun _ => hb, fun h => absurd rfl h, fun h => by simp at h, fun _ => rfl⟩,
            h.markBitfield key, rfl, rfl⟩
    case multiset =>
      cases hm : c.multisets.find? (·.decl.name == ad.multiset) with
      | none => simp [hm] at ha
      | some m =>
        simp [hm] at ha
        obtain ⟨rfl, rfl⟩ := ha
        have hr : (refsOf M).find? (·.name == ad.multiset) = some m.decl.ref := by
          rw [← h.refs, List.find?_map]
          simp only [Function.comp_def, MultisetDecl.ref]
          rw [hm, Option.map_some]
        refine ⟨⟨rfl, ht, fun h => by simp at h, fun _ => rfl, fun h => by simp at h, fun _ => rfl,
          fun _ => ⟨_, hr, rfl⟩, fun h => absurd rfl h⟩, h, rfl, rfl⟩
    all_goals
      simp at ha
      obtain ⟨rfl, rfl⟩ := ha
      exact ⟨.plain ht (by simp) (by simp) (by simp), h, rfl, rfl⟩

theorem compileArgs_spec {ads : List ArgDef} {args : List Arg} (h : c.Declares E M)
    (ha : ads.foldlM (Compiler.compileArgStep feature command) (c, []) = .ok (c', args)) :
    List.Forall₂ (ArgFrom E (refsOf M) feature) ads args ∧ c'.Declares E M ∧
      c'.byName = c.byName ∧ c'.multisets = c.multisets := by
  refine foldlM_run_nil (I := fun p acc => List.Forall₂ (ArgFrom E (refsOf M) feature) p acc.2 ∧
      acc.1.Declares E M ∧ acc.1.byName = c.byName ∧ acc.1.multisets = c.multisets) ?_
    ⟨.nil, h, rfl, rfl⟩ ha
  rintro p ad ⟨c₁, args₁⟩ acc' ⟨hargs, hd, hb, hm⟩ hs
  obtain ⟨⟨c₂, a⟩, h₁, hs⟩ := Except.bind_eq_ok.mp hs
  cases hs
  obtain ⟨hf, hd', hb', hm'⟩ := compileArg_spec hd h₁
  exact ⟨List.rel_append hargs (.cons hf .nil), hd', hb'.trans hb, hm'.trans hm⟩

end Args

/-- The command definitions of a feature with the name and number of their
class, in the order they compile: the classless ones, then each class's. -/
def commandDefs (d : FeatureDef) : List (String × UInt8 × CommandDef) :=
  d.commands.map (fun cd => ("", 0, cd)) ++
    d.classes.flatMap fun k => k.commands.map fun cd => (k.name, k.id, cd)

/-- How a command definition `k.2.2` of feature `d`, in the class named `k.1`
and numbered `k.2.1`, compiles: its descriptor has the full name, identity and
options the definition gives, and arguments resolved as `ArgFrom` says. -/
structure CommandFrom (E : List (String × EnumDef)) (R : List MultisetRef) (d : FeatureDef)
    (k : String × UInt8 × CommandDef) (cc : CompiledCommand) : Prop where
  source : cc.source = k.2.2
  cls : cc.cls = k.1
  name : cc.desc.name =
    if k.1.isEmpty then d.name ++ "." ++ k.2.2.name else d.name ++ "." ++ k.1 ++ "." ++ k.2.2.name
  feature : cc.desc.feature = d.id
  classId : cc.desc.cls = k.2.1
  id : cc.desc.id = k.2.2.id
  delivery : parseBuffer k.2.2.buffer = some cc.desc.delivery
  timeout : parseTimeout k.2.2.timeout = some cc.desc.timeout
  list : parseList k.2.2.list = some cc.desc.list
  args : List.Forall₂ (ArgFrom E R d.name) k.2.2.args cc.desc.args

/-- What compiling the command `cc` may change in a compiler besides its
enums: it records `cc` under its name, and nothing else. -/
def Compiler.Grows (c' c : Compiler) (cc : CompiledCommand) : Prop :=
  c'.multisets = c.multisets ∧
    (c'.byName = c.byName ∨ c'.byName = c.byName ++ [(cc.desc.name, cc.desc)])

section Commands

variable {E : List (String × EnumDef)} {M : List (MultisetDef × String)} {d : FeatureDef}
  {c c' : Compiler}

theorem compileCommand_spec {cls : String} {clsId : UInt8} {cd : CommandDef} {cc : CompiledCommand}
    (h : c.Declares E M) (hc : c.compileCommand d cls clsId cd = .ok (c', cc)) :
    CommandFrom E (refsOf M) d (cls, clsId, cd) cc ∧ c'.Declares E M ∧
      c'.Grows c cc := by
  unfold Compiler.compileCommand at hc
  cases hb : parseBuffer cd.buffer with
  | none => simp [hb] at hc
  | some delivery =>
  cases ht : parseTimeout cd.timeout with
  | none => simp [hb, ht] at hc
  | some timeout =>
  cases hl : parseList cd.list with
  | none => simp [hb, ht, hl] at hc
  | some list =>
  simp only [hb, ht, hl] at hc
  obtain ⟨⟨c₁, args⟩, hargs, hc⟩ := Except.bind_eq_ok.mp hc
  obtain ⟨hf, hd, hname, hms⟩ := compileArgs_spec h hargs
  cases hc
  refine ⟨⟨rfl, rfl, rfl, rfl, rfl, rfl, hb, ht, hl, hf⟩, by split_ifs <;> simp [hd, hd.setByName], ?_⟩
  -- the command is recorded by name unless one of its name was
  split_ifs <;> simp [Compiler.Grows, hms, hname]

/-- Compiling commands of one class after those compiled so far: each compiles
as its definition says, in order. -/
theorem compileSteps_spec {cls : String} {clsId : UInt8} {pre : List (String × UInt8 × CommandDef)}
    {l : List CommandDef} {acc acc' : Compiler × List CompiledCommand}
    (h : List.Forall₂ (CommandFrom E (refsOf M) d) pre acc.2 ∧ acc.1.Declares E M)
    (hs : l.foldlM (Compiler.compileStep d cls clsId) acc = .ok acc') :
    List.Forall₂ (CommandFrom E (refsOf M) d) (pre ++ l.map fun cd => (cls, clsId, cd)) acc'.2 ∧
      acc'.1.Declares E M := by
  refine foldlM_run_nil (I := fun p acc => List.Forall₂ (CommandFrom E (refsOf M) d)
      (pre ++ p.map fun cd => (cls, clsId, cd)) acc.2 ∧ acc.1.Declares E M) ?_ (by simpa using h) hs
  rintro p cd ⟨c₁, cs⟩ acc' ⟨hcs, hd⟩ hs
  obtain ⟨⟨c₂, cc⟩, h₁, hs⟩ := Except.bind_eq_ok.mp hs
  cases hs
  obtain ⟨hf, hd', -⟩ := compileCommand_spec hd h₁
  refine ⟨?_, hd'⟩
  rw [List.map_append, List.map_singleton, ← List.append_assoc]
  exact List.rel_append hcs (.cons hf .nil)

theorem compileFeature_spec {cs : List CompiledCommand} (h : c.Declares E M)
    (hc : c.compileFeature d = .ok (c', cs)) :
    List.Forall₂ (CommandFrom E (refsOf M) d) (commandDefs d) cs ∧ c'.Declares E M := by
  unfold Compiler.compileFeature at hc
  split at hc
  · cases hc
  obtain ⟨acc, h₁, h₂⟩ := Except.bind_eq_ok.mp hc
  -- the classless commands compile first, from no command
  have hdirect : List.Forall₂ (CommandFrom E (refsOf M) d)
      ([] ++ d.commands.map fun cd => ("", 0, cd)) acc.2 ∧ acc.1.Declares E M :=
    compileSteps_spec ⟨.nil, h⟩ h₁
  -- each class continues from the commands compiled before it
  refine foldlM_run_nil (I := fun q (acc : Compiler × List CompiledCommand) =>
      List.Forall₂ (CommandFrom E (refsOf M) d) (d.commands.map (fun cd => ("", 0, cd)) ++
        q.flatMap fun k => k.commands.map fun cd => (k.name, k.id, cd)) acc.2 ∧
      acc.1.Declares E M) ?_ (by simpa using hdirect) h₂
  intro q k acc acc' hi hk
  simpa [List.flatMap_append, List.append_assoc] using compileSteps_spec hi hk

/-- Compiling features one after the other compiles each one's command
definitions, in order. -/
theorem compileFeatures_spec {defs : List FeatureDef} {acc : Compiler × List (List CompiledCommand)}
    (h : c.Declares E M) (hs : defs.foldlM compileNext (c, []) = .ok acc) :
    List.Forall₂ (fun d cs => List.Forall₂ (CommandFrom E (refsOf M) d) (commandDefs d) cs)
      defs acc.2 ∧ acc.1.Declares E M := by
  refine foldlM_run_nil (I := fun p (acc : Compiler × List (List CompiledCommand)) =>
      List.Forall₂ (fun d cs => List.Forall₂ (CommandFrom E (refsOf M) d) (commandDefs d) cs)
        p acc.2 ∧ acc.1.Declares E M) ?_ ⟨.nil, h⟩ hs
  rintro p d ⟨c₁, css⟩ acc' ⟨hcss, hd⟩ hs
  obtain ⟨⟨c₂, cs⟩, h₁, hs⟩ := Except.bind_eq_ok.mp hs
  cases hs
  obtain ⟨hf, hd'⟩ := compileFeature_spec hd h₁
  exact ⟨List.rel_append hcss (.cons hf .nil), hd'⟩

/-- Changing what multisets hold, but not their declaration, name or place,
changes no declaration. -/
theorem Compiler.Declares.mapMultisets (h : c.Declares E M) (g : CompiledMultiset → CompiledMultiset)
    (hg : ∀ m, (g m).source = m.source ∧ (g m).owner = m.owner ∧ (g m).decl.name = m.decl.name ∧
      (g m).decl.key = m.decl.key) :
    ({ c with multisets := c.multisets.map g } : Compiler).Declares E M := by
  refine ⟨h.enums, h.tables, ?_, ?_, ?_⟩
  · rw [← h.multisets, List.map_map]
    exact List.map_congr_left fun m _ => by simp [(hg m).1, (hg m).2.1]
  · simp only [List.mem_map]
    rintro _ ⟨m, hm, rfl⟩
    rw [(hg m).2.2.1, (hg m).1]
    exact h.names m hm
  · rw [List.map_map, List.length_map, ← h.keys]
    exact List.map_congr_left fun m _ => (hg m).2.2.2

theorem Compiler.Declares.addMember {mname member : String} (h : c.Declares E M)
    (ha : c.addMember mname member = .ok c') : c'.Declares E M := by
  unfold Compiler.addMember at ha
  cases hl : c.byName.lookup member with
  | none => simp [hl] at ha
  | some cmd =>
    simp only [hl, Except.pure_eq_ok, Except.ok.injEq] at ha
    subst ha
    exact h.mapMultisets _ fun m => by by_cases hm : m.decl.name == mname <;> simp [hm]

theorem Compiler.Declares.resolveMembers {defs : List FeatureDef} (h : c.Declares E M)
    (hr : c.resolveMembers defs = .ok c') : c'.Declares E M :=
  foldlM_inv (I := fun c => c.Declares E M) (fun hi hd =>
    foldlM_inv (I := fun c => c.Declares E M) (fun hi hm =>
      foldlM_inv (I := fun c => c.Declares E M) (fun hi ha => hi.addMember ha) hi hm) hi hd)
    h hr

end Commands

/-! ### Members -/

section Members

variable {E : List (String × EnumDef)} {M : List (MultisetDef × String)} {d : FeatureDef}
  {c c' : Compiler} {cs pre : List CompiledCommand}

def Compiler.NamesFrom (c : Compiler) (cs : List CompiledCommand) : Prop :=
  ∀ p ∈ c.byName, ∃ x ∈ cs, x.desc = p.2

def Compiler.MembersFrom (c : Compiler) (cs : List CompiledCommand) : Prop :=
  ∀ m ∈ c.multisets, ∀ x ∈ m.decl.members, ∃ y ∈ cs, y.desc = x

theorem Compiler.NamesFrom.grows {cc : CompiledCommand} (h : c.NamesFrom cs) (hg : c'.Grows c cc) :
    c'.NamesFrom (cs ++ [cc]) := by
  intro p hp
  rcases hg.2 with hb | hb
  · obtain ⟨x, hx, he⟩ := h p (hb ▸ hp)
    exact ⟨x, List.mem_append_left _ hx, he⟩
  · rcases List.mem_append.mp (hb ▸ hp) with hp | hp
    · obtain ⟨x, hx, he⟩ := h p hp
      exact ⟨x, List.mem_append_left _ hx, he⟩
    · rw [List.mem_singleton.mp hp]
      exact ⟨cc, List.mem_append_right _ (List.mem_singleton_self _), rfl⟩

/-- Compiling one command more keeps whatever survives a compiler growing by
that command. -/
theorem compileStep_grows {P : Compiler → List CompiledCommand → Prop}
    (hP : ∀ {c₁ c₂ : Compiler} {cs₁ : List CompiledCommand} {cc : CompiledCommand},
      P c₁ cs₁ → c₂.Grows c₁ cc → P c₂ (cs₁ ++ [cc]))
    {cls : String} {clsId : UInt8} {cd : CommandDef} {acc acc' : Compiler × List CompiledCommand}
    (h : acc.1.Declares E M ∧ P acc.1 (pre ++ acc.2) ∧ acc.1.multisets = c.multisets)
    (hs : Compiler.compileStep d cls clsId acc cd = .ok acc') :
    acc'.1.Declares E M ∧ P acc'.1 (pre ++ acc'.2) ∧ acc'.1.multisets = c.multisets := by
  obtain ⟨⟨c₁, cc⟩, h₁, hs⟩ := Except.bind_eq_ok.mp hs
  cases hs
  obtain ⟨-, hd, hg⟩ := compileCommand_spec h.1 h₁
  refine ⟨hd, ?_, hg.1.trans h.2.2⟩
  rw [← List.append_assoc]
  exact hP h.2.1 hg

/-- Compiling a feature keeps whatever survives a compiler growing by one
command, over its commands and those before. -/
theorem compileFeature_grows {P : Compiler → List CompiledCommand → Prop}
    (hP : ∀ {c₁ c₂ : Compiler} {cs₁ : List CompiledCommand} {cc : CompiledCommand},
      P c₁ cs₁ → c₂.Grows c₁ cc → P c₂ (cs₁ ++ [cc]))
    {cs : List CompiledCommand} (h : c.Declares E M)
    (hn : P c pre) (hc : c.compileFeature d = .ok (c', cs)) :
    c'.Declares E M ∧ P c' (pre ++ cs) ∧ c'.multisets = c.multisets := by
  unfold Compiler.compileFeature at hc
  split at hc
  · cases hc
  obtain ⟨acc, h₁, h₂⟩ := Except.bind_eq_ok.mp hc
  have hstep : ∀ {cls : String} {clsId : UInt8} {acc acc' : Compiler × List CompiledCommand}
      {cd : CommandDef}, (acc.1.Declares E M ∧ P acc.1 (pre ++ acc.2) ∧
        acc.1.multisets = c.multisets) → Compiler.compileStep d cls clsId acc cd = .ok acc' →
      acc'.1.Declares E M ∧ P acc'.1 (pre ++ acc'.2) ∧ acc'.1.multisets = c.multisets :=
    fun hi hs => compileStep_grows hP hi hs
  have hdirect := foldlM_inv hstep ⟨h, by simpa using hn, rfl⟩ h₁
  exact foldlM_inv (fun hi hk => foldlM_inv hstep hi hk) hdirect h₂

/-- Compiling features keeps whatever survives a compiler growing by one
command, and leaves the multisets as declared. -/
theorem compileFeatures_grows {P : Compiler → List CompiledCommand → Prop}
    (hP : ∀ {c₁ c₂ : Compiler} {cs₁ : List CompiledCommand} {cc : CompiledCommand},
      P c₁ cs₁ → c₂.Grows c₁ cc → P c₂ (cs₁ ++ [cc]))
    {defs : List FeatureDef} {acc : Compiler × List (List CompiledCommand)} (h : c.Declares E M)
    (hn : P c []) (hs : defs.foldlM compileNext (c, []) = .ok acc) :
    P acc.1 acc.2.flatten ∧ acc.1.multisets = c.multisets := by
  refine (foldlM_inv (I := fun acc : Compiler × List (List CompiledCommand) =>
      acc.1.Declares E M ∧ P acc.1 acc.2.flatten ∧ acc.1.multisets = c.multisets)
    (fun {acc acc'} {d} hi hs => ?_) ⟨h, hn, rfl⟩ hs).2
  obtain ⟨⟨c₂, cs⟩, h₁, hs⟩ := Except.bind_eq_ok.mp hs
  cases hs
  obtain ⟨hd, hn', hm⟩ := compileFeature_grows hP hi.1 hi.2.1 h₁
  exact ⟨hd, by simpa using hn', hm.trans hi.2.2⟩

theorem compileFeatures_namesFrom {defs : List FeatureDef}
    {acc : Compiler × List (List CompiledCommand)} (h : c.Declares E M) (hn : c.NamesFrom [])
    (hs : defs.foldlM compileNext (c, []) = .ok acc) :
    acc.1.NamesFrom acc.2.flatten ∧ acc.1.multisets = c.multisets :=
  compileFeatures_grows (fun hi hg => hi.grows hg) h hn hs

theorem addMember_membersFrom {mname member : String} (hn : c.NamesFrom cs)
    (hm : c.MembersFrom cs) (ha : c.addMember mname member = .ok c') :
    c'.NamesFrom cs ∧ c'.MembersFrom cs := by
  unfold Compiler.addMember at ha
  cases hl : c.byName.lookup member with
  | none => simp [hl] at ha
  | some cmd =>
    simp only [hl, Except.pure_eq_ok, Except.ok.injEq] at ha
    subst ha
    obtain ⟨y, hy, hcmd⟩ := hn _ (mem_of_lookup_eq_some hl)
    refine ⟨hn, fun m' hm' x hx => ?_⟩
    obtain ⟨m, hmc, rfl⟩ := List.mem_map.mp hm'
    split at hx
    · rcases List.mem_append.mp hx with hx | hx
      · exact hm m hmc x hx
      · rw [List.mem_singleton.mp hx]
        exact ⟨y, hy, hcmd⟩
    · exact hm m hmc x hx

theorem resolveMembers_membersFrom {defs : List FeatureDef} (hn : c.NamesFrom cs)
    (hm : c.MembersFrom cs) (hr : c.resolveMembers defs = .ok c') : c'.MembersFrom cs :=
  (foldlM_inv (I := fun c => c.NamesFrom cs ∧ c.MembersFrom cs) (fun hi hd =>
    foldlM_inv (I := fun c => c.NamesFrom cs ∧ c.MembersFrom cs) (fun hi hmd =>
      foldlM_inv (I := fun c => c.NamesFrom cs ∧ c.MembersFrom cs)
        (fun hi ha => addMember_membersFrom hi.1 hi.2 ha) hi hmd) hi hd) ⟨hn, hm⟩ hr).2

end Members

/-- What a compiled schema keeps of its definitions `defs`: a feature for each
definition, in order, with its enums and its command definitions compiled as
`CommandFrom` says against all declarations; the declared multisets, each with
the name and place it was declared with; and the distinct enum keys and
multiset names that declaring checked. -/
structure Resolves (defs : List FeatureDef) (s : Compiled) : Prop where
  sources : s.features.map (·.source) = defs
  commands : ∀ f ∈ s.features, List.Forall₂
    (CommandFrom (declaredEnums defs) (refsOf (declaredMultisets defs)) f.source)
    (commandDefs f.source) f.commands
  enums : ∀ f ∈ s.features, f.enums.map (·.source) = f.source.enums
  tables : ∀ f ∈ s.features, ∀ e ∈ f.enums, e.table = e.source.toTable
  multisets : s.multisets.map (fun m => (m.source, m.owner)) = declaredMultisets defs
  names : ∀ m ∈ s.multisets, m.decl.name = m.source.name
  keys : s.multisets.map (·.decl.key) = List.range s.multisets.length
  enumKeys : ((declaredEnums defs).map Prod.fst).Nodup
  multisetNames : ((declaredMultisets defs).map (·.1.name)).Nodup

section Resolve

variable {defs : List FeatureDef} {E : List (String × EnumDef)} {M : List (MultisetDef × String)}
  {c : Compiler}

theorem Compiler.Declares.lookup_declared (h : c.Declares (declaredEnums defs) M)
    (hnd : ((declaredEnums defs).map Prod.fst).Nodup) {d : FeatureDef} (hd : d ∈ defs)
    {e : EnumDef} (he : e ∈ d.enums) :
    (c.enums.lookup (d.name ++ "." ++ e.name)).map (·.source) = some e := by
  rw [h.lookup]
  exact lookup_of_mem hnd (List.mem_flatMap.mpr ⟨d, hd, List.mem_map.mpr ⟨e, he, rfl⟩⟩)

theorem Compiler.Declares.enums_filterMap (h : c.Declares (declaredEnums defs) M)
    (hnd : ((declaredEnums defs).map Prod.fst).Nodup) {d : FeatureDef} (hd : d ∈ defs) :
    (d.enums.filterMap fun e => c.enums.lookup (d.name ++ "." ++ e.name)).map (·.source) =
      d.enums :=
  calc (d.enums.filterMap fun e => c.enums.lookup (d.name ++ "." ++ e.name)).map (·.source)
      = d.enums.filterMap fun e => (c.enums.lookup (d.name ++ "." ++ e.name)).map (·.source) :=
        List.map_filterMap
    _ = d.enums.filterMap some := List.filterMap_congr fun _ he => h.lookup_declared hnd hd he
    _ = d.enums := List.filterMap_some

/-- Compiling keeps what `Resolves` says of the definitions. -/
theorem compile_resolves {s : Compiled} (h : compile defs = .ok s) : Resolves defs s := by
  unfold compile at h
  obtain ⟨c, hc, h⟩ := Except.bind_eq_ok.mp h
  obtain ⟨acc, hacc, h⟩ := Except.bind_eq_ok.mp h
  obtain ⟨done, hdone, h⟩ := Except.bind_eq_ok.mp h
  -- the table is built last, and only its success matters here
  simp only at h
  split at h
  case h_2 => cases h
  cases h
  have hD := declared_declare hc
  obtain ⟨hcmds, hacc⟩ := compileFeatures_spec hD.toDeclares hacc
  have hdone := hacc.resolveMembers hdone
  have hlen := hcmds.length_eq
  refine ⟨?_, ?_, ?_, ?_, hdone.multisets, hdone.names, hdone.keys, hD.enumKeys, hD.multisetNames⟩
  · rw [List.map_map]
    exact List.map_fst_zip (Nat.le_of_eq hlen)
  · simp only [List.mem_map]
    rintro _ ⟨⟨d, cs⟩, hp, rfl⟩
    exact List.forall₂_zip hcmds hp
  · simp only [List.mem_map]
    rintro _ ⟨⟨d, cs⟩, hp, rfl⟩
    exact hdone.enums_filterMap hD.enumKeys (List.of_mem_zip hp).1
  · simp only [List.mem_map]
    rintro _ ⟨⟨d, cs⟩, hp, rfl⟩ e he
    obtain ⟨e₀, -, he⟩ := List.mem_filterMap.mp he
    exact hdone.tables _ (mem_of_lookup_eq_some he)

/-- The table of a compiled schema is the one built from its commands, feature
by feature and in order. -/
theorem compile_table {s : Compiled} (h : compile defs = .ok s) :
    ∃ drafts extra, Table.build drafts
      ((s.features.flatMap (·.commands)).map fun c => some c.desc) extra = .ok s.table := by
  unfold compile at h
  obtain ⟨c, hc, h⟩ := Except.bind_eq_ok.mp h
  obtain ⟨acc, hacc, h⟩ := Except.bind_eq_ok.mp h
  obtain ⟨done, -, h⟩ := Except.bind_eq_ok.mp h
  simp only at h
  split at h
  case h_2 => cases h
  rename_i t ht
  cases h
  have hlen := (compileFeatures_spec (declared_declare hc).toDeclares hacc).1.length_eq
  -- the features pair each definition with its commands, so their commands are all compiled ones
  have hflat : (defs.zip acc.2).flatMap (fun p => p.2) = acc.2.flatten := by
    rw [List.flatMap_def, List.map_snd_zip (Nat.le_of_eq hlen.symm)]
  dsimp only
  rw [List.flatMap_map, hflat]
  exact ⟨_, _, ht⟩

/-- The stages of a compilation that succeeded: the declarations, the commands
feature by feature, the multisets with their members, and the table built
from them. -/
theorem compile_eq_ok {s : Compiled} (h : compile defs = .ok s) :
    ∃ c acc done, declare defs = .ok c ∧ defs.foldlM compileNext (c, []) = .ok acc ∧
      acc.1.resolveMembers defs = .ok done ∧ s.multisets = done.multisets ∧
      s.features.flatMap (·.commands) = acc.2.flatten ∧
      Table.build (done.multisets.map (·.decl.toDraft)) (acc.2.flatten.map fun cc => some cc.desc)
        ((defs.flatMap fun d => d.multisets.filterMap fun md =>
          (done.multisets.map (·.decl.toDraft)).find? (·.name == md.name)).map some) =
        .ok s.table := by
  unfold compile at h
  obtain ⟨c, hc, h⟩ := Except.bind_eq_ok.mp h
  obtain ⟨acc, hacc, h⟩ := Except.bind_eq_ok.mp h
  obtain ⟨done, hdone, h⟩ := Except.bind_eq_ok.mp h
  simp only at h
  split at h
  case h_2 => cases h
  rename_i t ht
  cases h
  have hlen := (compileFeatures_spec (declared_declare hc).toDeclares hacc).1.length_eq
  have hflat : (defs.zip acc.2).flatMap (fun p => p.2) = acc.2.flatten := by
    rw [List.flatMap_def, List.map_snd_zip (Nat.le_of_eq hlen.symm)]
  refine ⟨c, acc, done, hc, hacc, hdone, rfl, ?_, ht⟩
  rw [List.flatMap_map]
  exact hflat

end Resolve

namespace Resolves

variable {defs : List FeatureDef} {s : Compiled}

theorem multisetNames_nodup (h : Resolves defs s) : (s.multisets.map (·.decl.name)).Nodup := by
  have hnames : s.multisets.map (·.decl.name) = (declaredMultisets defs).map (·.1.name) := by
    rw [← h.multisets, List.map_map]
    exact List.map_congr_left fun m hm => h.names m hm
  rw [hnames]
  exact h.multisetNames

theorem multiset?_eq (h : Resolves defs s) {m : CompiledMultiset} (hm : m ∈ s.multisets) :
    s.multiset? m.decl.name = some m := by
  unfold Compiled.multiset?
  cases hf : s.multisets.find? (·.decl.name == m.decl.name) with
  | none =>
    rw [List.find?_eq_none] at hf
    exact absurd (by simp) (hf m hm)
  | some m' =>
    have hname : m'.decl.name = m.decl.name := by simpa using List.find?_some hf
    rw [List.inj_on_of_nodup_map h.multisetNames_nodup (List.mem_of_find?_eq_some hf) hm hname]

theorem multiset?_declared (h : Resolves defs s) {d : FeatureDef} (hd : d ∈ defs)
    {md : MultisetDef} (hmd : md ∈ d.multisets) :
    ∃ m ∈ s.multisets, m.source = md ∧ m.owner = d.name ∧ s.multiset? md.name = some m := by
  have hmem : (md, d.name) ∈ s.multisets.map (fun m => (m.source, m.owner)) := by
    rw [h.multisets]
    exact List.mem_flatMap.mpr ⟨d, hd, List.mem_map.mpr ⟨md, hmd, rfl⟩⟩
  obtain ⟨m, hm, he⟩ := List.mem_map.mp hmem
  simp only [Prod.mk.injEq] at he
  refine ⟨m, hm, he.1, he.2, ?_⟩
  rw [← he.1, ← h.names m hm]
  exact h.multiset?_eq hm

theorem declared_of_mem (h : Resolves defs s) {m : CompiledMultiset} (hm : m ∈ s.multisets) :
    ∃ d ∈ defs, m.source ∈ d.multisets ∧ m.owner = d.name := by
  have hmem : (m.source, m.owner) ∈ declaredMultisets defs := by
    rw [← h.multisets]
    exact List.mem_map_of_mem hm
  simpa [declaredMultisets, eq_comm] using hmem

theorem feature_of_mem (h : Resolves defs s) {d : FeatureDef} (hd : d ∈ defs) :
    ∃ f ∈ s.features, f.source = d := by
  rw [← h.sources] at hd
  exact List.mem_map.mp hd

theorem filterMap_multiset? (h : Resolves defs s) :
    (defs.flatMap (·.multisets)).filterMap (fun md => s.multiset? md.name) = s.multisets := by
  have hsrc : defs.flatMap (·.multisets) = s.multisets.map (·.source) := by
    have hfst := congrArg (List.map Prod.fst) h.multisets
    simpa [declaredMultisets, List.map_flatMap, Function.comp_def] using hfst.symm
  rw [hsrc, List.filterMap_map]
  calc s.multisets.filterMap (fun m => s.multiset? m.source.name)
      = s.multisets.filterMap some := List.filterMap_congr fun m hm => by
        rw [← h.names m hm]
        exact h.multiset?_eq hm
    _ = s.multisets := List.filterMap_some

theorem refs (h : Resolves defs s) : s.multisets.map (·.decl.ref) = refsOf (declaredMultisets defs) :=
  Compiler.Declares.refs (c := { multisets := s.multisets }) (E := [])
    ⟨rfl, by simp, h.multisets, h.names, h.keys⟩

theorem map_zipIdx {β : Type} (h : Resolves defs s) (g : CompiledMultiset → Nat → β) :
    s.multisets.zipIdx.map (fun p => g p.1 p.2) = s.multisets.map fun m => g m m.decl.key := by
  apply List.ext_getElem
  · simp
  · intro i h₁ h₂
    have hi : i < s.multisets.length := by simpa using h₁
    have hk : s.multisets[i].decl.key = i := by
      have := congrArg (fun l => l[i]?) h.keys
      simpa [hi] using this
    simp [hk]

end Resolves

section Built

variable {defs : List FeatureDef} {s : Compiled}

/-- The table of a compiled schema is the one built from its commands, feature
by feature in order, with its multisets as the declarations references point
to and as the multisets passed explicitly. -/
theorem compile_build (h : compile defs = .ok s) :
    Table.build (s.multisets.map (·.decl.toDraft))
      ((s.features.flatMap (·.commands)).map fun c => some c.desc)
      ((s.multisets.map (·.decl.toDraft)).map some) = .ok s.table := by
  obtain ⟨c, acc, done, -, -, -, hms, hcmds, hb⟩ := compile_eq_ok h
  -- each declared multiset is passed as the draft of its compiled declaration
  have hdeclared : (defs.flatMap fun d => d.multisets.filterMap fun md =>
      (done.multisets.map (·.decl.toDraft)).find? (·.name == md.name)) =
        s.multisets.map (·.decl.toDraft) := by
    rw [← (compile_resolves h).filterMap_multiset?, List.map_filterMap, List.filterMap_flatMap]
    refine List.flatMap_congr fun d _ => List.filterMap_congr fun md _ => ?_
    rw [List.find?_map, ← hms]
    rfl
  rw [hdeclared, ← hms] at hb
  rw [hcmds]
  exact hb

theorem compile_members (h : compile defs = .ok s) :
    ∀ m ∈ s.multisets, ∀ x ∈ m.decl.members, ∃ cc ∈ s.features.flatMap (·.commands), cc.desc = x := by
  obtain ⟨c, acc, done, hc, hacc, hdone, hms, hcmds, -⟩ := compile_eq_ok h
  have hD := declared_declare hc
  obtain ⟨hn, hsame⟩ :=
    compileFeatures_namesFrom hD.toDeclares (fun p hp => by simp [hD.byName] at hp) hacc
  -- declaring leaves every multiset without members
  have hnone : acc.1.MembersFrom acc.2.flatten := by
    intro m hm x hx
    rw [hsame] at hm
    simp [hD.members m hm] at hx
  rw [hms, hcmds]
  exact resolveMembers_membersFrom hn hnone hdone

theorem compile_consistent (h : compile defs = .ok s) :
    Table.ConsistentIndex ((s.features.flatMap (·.commands)).map (·.desc)) s.table := by
  obtain ⟨cs, t₀, hcs, hsorted, ht⟩ := Table.build_indexes (compile_build h)
  have hdescs : (s.features.flatMap (·.commands)).map (·.desc) = cs :=
    List.map_injective_iff.mpr (Option.some_injective _) (by rw [List.map_map]; exact hcs)
  rw [hdescs, ht]
  exact hsorted.consistent_sorted

/-- The commands of a compiled schema have distinct full names: its table holds
each once and finds it under its name. -/
theorem compile_names_nodup (h : compile defs = .ok s) :
    ((s.features.flatMap (·.commands)).map (·.desc.name)).Nodup := by
  have hindex := compile_consistent h
  -- identities strictly increase along the table, so no command is there twice
  have hnodup : ((s.features.flatMap (·.commands)).map (·.desc)).Nodup :=
    hindex.commands_perm.nodup_iff.mp
      (hindex.commands_sorted.imp fun hlt heq => by subst heq; exact lt_irrefl _ hlt)
  have hnames : (s.features.flatMap (·.commands)).map (·.desc.name) =
      ((s.features.flatMap (·.commands)).map (·.desc)).map (·.name) := by
    rw [List.map_map]
    rfl
  rw [hnames]
  exact hnodup.map_on fun x hx y hy hxy =>
    Option.some.inj ((hindex.find_own_name x hx).symm.trans (hxy ▸ hindex.find_own_name y hy))

end Built

end DroneProtocol.Schema
