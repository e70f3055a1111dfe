import Mathlib
import DroneProtocol.Proofs.Codegen.Planning

/-! # What generated descriptors denote

Generated descriptors are literals whose constants and variables stand for
descriptor values (`Bindings`). Main statements: `planArg_denote` and
`planCommand_denote`, the plan of a compiled argument or command denotes it
when every identifier stands for what it was given to (`Resolved`). -/

namespace DroneProtocol.Codegen

open Schema

/-! ### Constants of the descriptor package -/

def argTypeOfConst? : String → Option ArgType
  | "desc.I8" => some .i8
  | "desc.U8" => some .u8
  | "desc.I16" => some .i16
  | "desc.U16" => some .u16
  | "desc.I32" => some .i32
  | "desc.U32" => some .u32
  | "desc.I64" => some .i64
  | "desc.U64" => some .u64
  | "desc.Float" => some .float
  | "desc.Double" => some .double
  | "desc.String" => some .string
  | "desc.Binary" => some .binary
  | "desc.Enum" => some .enum
  | "desc.Bitfield" => some .bitfield
  | "desc.MultisetArg" => some .multiset
  | _ => none

def listKindOfConst? : String → Option ListKind
  | "desc.ListNone" => some .none
  | "desc.ListItem" => some .item
  | "desc.ListMapItem" => some .mapItem
  | _ => none

def deliveryOfConst? : String → Option Delivery
  | "desc.BufferNonAck" => some .nonAck
  | "desc.BufferAck" => some .ack
  | "desc.BufferHighPrio" => some .highPrio
  | _ => none

def timeoutOfConst? : String → Option TimeoutPolicy
  | "desc.TimeoutPop" => some .pop
  | "desc.TimeoutRetry" => some .retry
  | "desc.TimeoutFlush" => some .flush
  | _ => none

theorem argTypeOfConst?_typeConst :
    ∀ t ∈ ArgType.known, argTypeOfConst? ("desc." ++ typeConst t) = some t := by
  decide +kernel

theorem argTypeOfConst?_ofName {s : String} {t : ArgType} (h : ArgType.ofName? s = some t) :
    argTypeOfConst? ("desc." ++ typeConst t) = some t :=
  argTypeOfConst?_typeConst t (List.mem_of_find?_eq_some h)

theorem listKindOfConst?_listConst {s : String} {k : ListKind} (h : parseList s = some k) :
    listKindOfConst? (listConst k) = some k := by
  unfold parseList at h
  split at h <;> cases h <;> rfl

theorem deliveryOfConst?_bufferConst {s : String} {k : Delivery} (h : parseBuffer s = some k) :
    deliveryOfConst? (bufferConst k) = some k := by
  unfold parseBuffer at h
  split at h <;> cases h <;> rfl

theorem timeoutOfConst?_timeoutConst {s : String} {k : TimeoutPolicy} (h : parseTimeout s = some k) :
    timeoutOfConst? (timeoutConst k) = some k := by
  unfold parseTimeout at h
  split at h <;> cases h <;> rfl

/-! ### Reading descriptors back -/

/-- What the variables of generated files stand for: an enum variable for a
table, a multiset variable for a reference to a declaration. -/
structure Bindings where
  enums : List (String × EnumTable)
  multisets : List (String × MultisetRef)

/-- The table an enum declaration denotes. -/
def EnumPlan.table (e : EnumPlan) : EnumTable :=
  ⟨e.name, e.values.map fun v => ⟨v.name, Int32.ofInt v.value⟩⟩

/-- The argument an argument literal denotes. A field that is left out takes
its zero value: no table, no multiset, and the first type as bitfield base. -/
def ArgPlan.denote (b : Bindings) (a : ArgPlan) : Option Arg := do
  let type ← argTypeOfConst? a.type
  let enumTable : Option EnumTable ←
    if a.enum.isEmpty then pure none else (b.enums.lookup a.enum).map some
  let base ← if a.base.isEmpty then pure .i8 else argTypeOfConst? a.base
  let multiset : Option MultisetRef ←
    if a.multiset.isEmpty then pure none else (b.multisets.lookup a.multiset).map some
  pure { name := a.name, type, enumTable, base, multiset }

/-- The command a command literal denotes. -/
def CommandPlan.denote (b : Bindings) (c : CommandPlan) : Option Command := do
  let list ← listKindOfConst? c.list
  let delivery ← deliveryOfConst? c.buffer
  let timeout ← timeoutOfConst? c.timeout
  let args ← c.args.mapM (·.denote b)
  pure { name := c.name, feature := c.feature.toUInt8, cls := c.cls.toUInt8, id := c.id.toUInt16,
         args, list, delivery, timeout }

/-- The commands that the registry's `Commands` lists: the list of each
feature, in schema order. -/
def registryCommands (plans : List FeaturePlan) : List CommandPlan :=
  plans.flatMap (·.commands)

/-- The multisets that the registry's `Multisets` lists: the lists of the
features that declare any, in schema order. -/
def registryMultisets (plans : List FeaturePlan) : List MultisetPlan :=
  (plans.filter (!·.multisets.isEmpty)).flatMap (·.multisets)

theorem registryMultisets_eq (plans : List FeaturePlan) :
    registryMultisets plans = plans.flatMap (·.multisets) := by
  induction plans with
  | nil => rfl
  | cons p ps ih =>
    unfold registryMultisets at ih ⊢
    cases h : p.multisets <;> simp [h, ih]

/-- What the variables of generated files stand for. An enum variable stands
for the table its file declares. A multiset variable stands for a reference
by its name and its place in `Multisets`, the place telling variables apart. -/
def bindings (plans : List FeaturePlan) : Bindings where
  enums := plans.flatMap fun p => p.enums.map fun e => (e.ident, e.table)
  multisets := (registryMultisets plans).zipIdx.map fun p => (p.1.ident, ⟨p.1.name, p.2⟩)

/-- The command variables that `Commands` lists, each with the command it
denotes. -/
def commandVars (plans : List FeaturePlan) : Option (List (String × Command)) :=
  (registryCommands plans).mapM fun c => (c.denote (bindings plans)).map (c.ident, ·)

/-- The multiset a multiset declaration denotes at place `key`. Its members
are the commands of the variables it lists, missing where a variable is no
command variable. -/
def MultisetPlan.draft (vars : List (String × Command)) (m : MultisetPlan) (key : Nat) :
    MultisetDraft :=
  ⟨m.name, key, m.members.map fun v => vars.lookup v⟩

def registryDrafts (vars : List (String × Command)) (plans : List FeaturePlan) :
    List MultisetDraft :=
  (registryMultisets plans).zipIdx.map fun p => p.1.draft vars p.2

/-- What the registry's `NewTable` returns, when every command variable
denotes a command: the table built from `Commands`, with `Multisets` both as
the declarations that references point to and as the multisets passed
explicitly. -/
def generatedTable (plans : List FeaturePlan) : Option (Except TableError Table) := do
  let vars ← commandVars plans
  let drafts := registryDrafts vars plans
  pure (Table.build drafts (vars.map fun v => some v.2) (drafts.map some))

/-! ### Plans of compiled commands -/

theorem forall₂_of_getElem? {α β : Type} {R : α → β → Prop} :
    ∀ {l₁ : List α} {l₂ : List β}, l₁.length = l₂.length →
      (∀ (i : Nat) a b, l₁[i]? = some a → l₂[i]? = some b → R a b) → List.Forall₂ R l₁ l₂
  | [], [], _, _ => .nil
  | a :: _, b :: _, hlen, h =>
    .cons (h 0 a b rfl rfl)
      (forall₂_of_getElem? (by simpa using hlen) fun i _ _ ha hb => h (i + 1) _ _ ha hb)
  | [], _ :: _, hlen, _ => by simp at hlen
  | _ :: _, [], hlen, _ => by simp at hlen

theorem mapM_eq_some_of_forall₂ {α β : Type} {f : α → Option β} :
    ∀ {l : List α} {bs : List β}, List.Forall₂ (fun a b => f a = some b) l bs → l.mapM f = some bs
  | _, _, .nil => rfl
  | _, _, .cons h hs => by simp [List.mapM_cons, h, mapM_eq_some_of_forall₂ hs]

/-- The bindings `b` give the identifiers of the namer `n` their meaning: the
identifier of each enum declared in `E` stands for its table, and that of each
multiset reference in `R` for the reference. -/
structure Resolved (n : Namer) (b : Bindings) (E : List (String × EnumDef))
    (R : List MultisetRef) : Prop where
  enums : ∀ key ed, E.lookup key = some ed →
    ∃ v, n.enums[key]? = some v ∧ v ≠ "" ∧ b.enums.lookup v = some ed.toTable
  multisets : ∀ r ∈ R, ∃ v, n.multisets[r.name]? = some v ∧ v ≠ "" ∧
    b.multisets.lookup v = some r

section Denote

variable {n : Namer} {b : Bindings} {E : List (String × EnumDef)} {R : List MultisetRef}

/-- The plan of a compiled argument denotes it. -/
theorem planArg_denote {feature command : String} {ad : ArgDef} {a : Arg} {i : Nat}
    {ap : ArgPlan} (h : Resolved n b E R) (hf : ArgFrom E R feature ad a)
    (hp : planArg n feature command a ad i = .ok ap) : ap.denote b = some a := by
  unfold planArg at hp
  simp only at hp
  split_ifs at hp
  · cases hp
  cases hp
  have htype := argTypeOfConst?_ofName hf.type
  obtain ⟨name, type, enumTable, base, multiset⟩ := a
  have hname : name = ad.name := hf.name
  subst hname
  -- each type fills its own fields of the literal; the others keep their zero value
  cases type
  case enum =>
    obtain ⟨ed, hl, htab⟩ := hf.enum (.inl rfl)
    obtain ⟨v, hv, hne, hb⟩ := h.enums _ _ hl
    have hbase : base = .i8 := hf.noBase nofun
    have hms : multiset = none := hf.noMultiset nofun
    simp_all [ArgPlan.denote]
  case bitfield =>
    obtain ⟨ed, hl, htab⟩ := hf.enum (.inr rfl)
    obtain ⟨v, hv, hne, hb⟩ := h.enums _ _ hl
    have hbase := argTypeOfConst?_ofName (hf.base rfl)
    have hms : multiset = none := hf.noMultiset nofun
    simp_all [ArgPlan.denote]
  case multiset =>
    obtain ⟨r, hr, hms⟩ := hf.multiset rfl
    obtain ⟨v, hv, hne, hb⟩ := h.multisets r (List.mem_of_find?_eq_some hr)
    have htab : enumTable = none := hf.noEnum (by simp)
    have hbase : base = .i8 := hf.noBase nofun
    simp_all [ArgPlan.denote]
  all_goals
    have htab : enumTable = none := hf.noEnum (by simp)
    have hbase : base = .i8 := hf.noBase nofun
    have hms : multiset = none := hf.noMultiset nofun
    simp_all [ArgPlan.denote]

/-- The plan of a compiled command plans each argument from the definition it
was compiled from. -/
theorem planCommand_args_from {d : FeatureDef} {k : String × UInt8 × CommandDef}
    {c : CompiledCommand} {p : CommandPlan} (hc : CommandFrom E R d k c)
    (hp : planCommand n d.name c = .ok p) :
    List.Forall₂ (fun a ap => ∃ ad i, ArgFrom E R d.name ad a ∧
      planArg n d.name c.desc.name a ad i = .ok ap) c.desc.args p.args := by
  unfold planCommand at hp
  obtain ⟨args, hargs, hp⟩ := Except.bind_eq_ok.mp hp
  cases hp
  have hplan := forall₂_of_mapM_eq_ok hargs
  refine forall₂_of_getElem? (by rw [← hplan.length_eq, List.length_zipIdx]) fun i a ap ha hap => ?_
  -- the argument at place `i` is planned from the definition's argument there
  obtain ⟨x, hx, hxp⟩ := exists_of_forall₂_getElem? hplan hap
  rw [List.getElem?_zipIdx, ha] at hx
  cases hx
  obtain ⟨ad, had, hf⟩ := exists_of_forall₂_getElem? hc.args ha
  rw [← hc.source] at had
  exact ⟨ad, i, hf, by simpa [had] using hxp⟩

/-- The plan of a compiled command denotes it, and its identity constant is
the text of the command's identity. -/
theorem planCommand_denote {d : FeatureDef} {k : String × UInt8 × CommandDef}
    {c : CompiledCommand} {p : CommandPlan} (h : Resolved n b E R) (hc : CommandFrom E R d k c)
    (hp : planCommand n d.name c = .ok p) :
    p.denote b = some c.desc ∧ p.identity = c.desc.identity.text := by
  have hargs : p.args.mapM (·.denote b) = some c.desc.args :=
    mapM_eq_some_of_forall₂
      ((planCommand_args_from hc hp).imp fun _ _ ⟨_, _, hf, hpa⟩ => planArg_denote h hf hpa).flip
  unfold planCommand at hp
  obtain ⟨args, -, hp⟩ := Except.bind_eq_ok.mp hp
  cases hp
  refine ⟨?_, rfl⟩
  simp only [CommandPlan.denote, listKindOfConst?_listConst hc.list,
    deliveryOfConst?_bufferConst hc.delivery, timeoutOfConst?_timeoutConst hc.timeout, hargs,
    UInt8.ofNat_toNat, UInt16.ofNat_toNat]
  rfl

end Denote

end DroneProtocol.Codegen
