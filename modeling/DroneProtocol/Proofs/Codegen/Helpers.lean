import DroneProtocol.Proofs.Codegen.Planning
import DroneProtocol.Proofs.Descriptor.Index
import DroneProtocol.Proofs.Wire.Encoding
import DroneProtocol.Wire.Message

/-! # Typed helpers and the codec

The field and parameter types the generator gives an argument are the types
of the values the codec decodes for it (`decodeArgWith_kindName`), and the
codec refuses such a value only for its domain, text or size. Main statement:
`generated_helpers_agree`. -/

namespace DroneProtocol

/-- A Go type name with the predeclared aliases resolved: `byte` is `uint8`
and `rune` is `int32`, also as slice elements. -/
def GoType.canonical : String → String
  | "byte" => "uint8"
  | "rune" => "int32"
  | "[]byte" => "[]uint8"
  | "[]rune" => "[]int32"
  | t => t

/-- The dynamic Go type of a value is the type named `t`: a type assertion to
`t` succeeds on it. -/
def Value.HasGoType (v : Value) (t : String) : Prop := v.kindName = GoType.canonical t

instance (v : Value) (t : String) : Decidable (v.HasGoType t) :=
  inferInstanceAs (Decidable (v.kindName = GoType.canonical t))

/-- The Go type of the values the codec decodes for an argument: an enum
entry, an unsigned word as wide as a bitfield's base (64 bits for a base of
another kind), a multiset, or the scalar type of the argument. -/
def Arg.decodedType (a : Arg) : String :=
  match a.type with
  | .enum => "desc.EnumValue"
  | .bitfield =>
    match a.base with
    | .u8 => "uint8"
    | .u16 => "uint16"
    | .u32 => "uint32"
    | _ => "uint64"
  | .multiset => "*wire.Multiset"
  | .binary => "[]uint8"
  | t => Codegen.scalarType t

/-! ### Checked arguments -/

section Checked

variable {drafts : List MultisetDraft} {cmd : Command}

/-- An argument that passes its check is a bitfield only on an unsigned base. -/
theorem Arg.check_bitfield {seen : List String} {a : Arg} {i : Nat}
    (h : a.check drafts cmd seen i = .ok ()) (ht : a.type = .bitfield) : a.base.isUnsigned := by
  cases hb : a.base.isUnsigned
  case true => rfl
  unfold Arg.check at h
  cases he : a.enumTable <;> simp only [ht, he, hb, Bool.not_false, ↓reduceIte] at h <;>
    split_ifs at h <;> cases h

theorem Command.checkArgs_go_forall :
    ∀ {l : List (Arg × Nat)} {seen : List String}, checkArgs.go drafts cmd l seen = .ok () →
      ∀ p ∈ l, ∃ seen', p.1.check drafts cmd seen' p.2 = .ok ()
  | [], _, _ => by simp
  | (a, i) :: rest, seen, h => by
    simp only [checkArgs.go] at h
    obtain ⟨⟨⟩, ha, hrest⟩ := Except.bind_eq_ok.mp h
    intro p hp
    rcases List.mem_cons.mp hp with rfl | hp
    · exact ⟨seen, ha⟩
    · exact checkArgs_go_forall hrest p hp

/-- A command whose arguments pass their checks has its bitfields on unsigned bases. -/
theorem Command.checkArgs_bitfield (h : cmd.checkArgs drafts = .ok ()) :
    ∀ a ∈ cmd.args, a.type = .bitfield → a.base.isUnsigned := by
  intro a ha
  obtain ⟨i, hi⟩ := List.mem_iff_getElem?.mp ha
  obtain ⟨seen, hcheck⟩ :=
    checkArgs_go_forall h (a, i) (List.mem_zipIdx_iff_getElem?.mpr (by simpa using hi))
  exact Arg.check_bitfield hcheck

theorem Table.build_checkArgs {cmds : List (Option Command)} {extra : List (Option MultisetDraft)}
    {t : Table} (h : Table.build drafts cmds extra = .ok t) :
    ∀ c, some c ∈ cmds → c.checkArgs drafts = .ok () := by
  obtain ⟨t₁, h₁, -⟩ := Except.bind_eq_ok.mp h
  intro c hc
  obtain ⟨c', hc', hargs⟩ := foldlM_forall (fun hstep => Table.addCommand_args hstep) h₁ _ hc
  rw [Option.some.inj hc']
  exact hargs

end Checked

/-! ### Decoded values -/

section Decoded

open CodecOptions

variable {o : CodecOptions} {body : BodyReader} {cat : Catalog}

/-- Every value decoded for an argument has the argument's decoded type. -/
theorem decodeArgWith_kindName {a : Arg} {c c' : Cursor} {v : Value}
    (h : o.decodeArgWith body cat a c = .ok (v, c')) : v.kindName = a.decodedType := by
  unfold Arg.decodedType
  cases hty : a.type
  case bitfield =>
    simp only [decodeArgWith, hty] at h
    -- the word read is as wide as the base, and of the matching unsigned type
    split at h <;> simp only [Except.bind_eq_ok, Except.pure_eq_ok, Except.ok.injEq,
      Prod.mk.injEq] at h <;> obtain ⟨_, -, rfl, -⟩ := h
    all_goals simp_all [Value.kindName]
  case multiset =>
    simp only [decodeArgWith, hty, Except.bind_eq_ok] at h
    obtain ⟨_, -, _, -, ms, -, h⟩ := h
    split at h
    · cases h
    · simp only [Except.pure_eq_ok, Except.ok.injEq, Prod.mk.injEq] at h
      rw [← h.1]
      rfl
  case enum =>
    simp only [decodeArgWith, hty, Except.bind_eq_ok] at h
    obtain ⟨_, -, h⟩ := h
    split at h
    · simp only [Except.pure_eq_ok, Except.ok.injEq, Prod.mk.injEq] at h
      rw [← h.1]
      rfl
    · cases h
  case binary =>
    simp only [decodeArgWith, hty, Except.bind_eq_ok] at h
    obtain ⟨_, -, h⟩ := h
    split at h
    · cases h
    · obtain ⟨_, -, h⟩ := Except.bind_eq_ok.mp h
      simp only [Except.pure_eq_ok, Except.ok.injEq, Prod.mk.injEq] at h
      rw [← h.1]
      rfl
  case unknown k => simp [decodeArgWith, hty] at h
  all_goals
    simp only [decodeArgWith, hty, Except.bind_eq_ok, Except.pure_eq_ok, Except.ok.injEq,
      Prod.mk.injEq] at h
    obtain ⟨_, -, rfl, -⟩ := h
    rfl

theorem decodeArgsWith_go_kindName (cmd : Command) :
    ∀ {args : List Arg} {i : Nat} {c : Cursor} {vs : List Value},
      decodeArgsWith.go body cat o cmd i args c = .ok vs →
        List.Forall₂ (fun a v => v.kindName = a.decodedType) args vs
  | [], i, c, vs, h => by
    simp only [decodeArgsWith.go] at h
    split at h
    · cases h
      exact .nil
    · cases h
  | a :: as, i, c, vs, h => by
    simp only [decodeArgsWith.go, Except.bind_eq_ok, Except.mapError_eq_ok] at h
    obtain ⟨⟨v, c'⟩, hv, rest, hrest, h⟩ := h
    cases h
    exact .cons (decodeArgWith_kindName hv) (decodeArgsWith_go_kindName cmd hrest)

theorem decodeArgs_kindName {cmd : Command} {payload : List UInt8} {vs : List Value}
    (h : o.decodeArgs cat cmd payload = .ok vs) :
    List.Forall₂ (fun a v => v.kindName = a.decodedType) cmd.args vs :=
  decodeArgsWith_go_kindName cmd h

theorem decodeArgs_of_decode {cmd : Command} {f : Frame} {vs : List Value}
    (h : o.decode cat cmd f = .ok vs) : o.decodeArgs cat cmd f.payload = .ok vs := by
  unfold decode at h
  split_ifs at h
  exact h

end Decoded

/-! ### Encoded values -/

section Encoded

open CodecOptions

variable {o : CodecOptions} {e : WireError}

theorem checkText_faults {s : List UInt8} (h : checkText s = .error e) :
    e.faults ⊆ [.enumValue, .invalidString, .tooLarge] := by
  unfold checkText at h
  split_ifs at h
  · cases h
    simp [WireError.faults]
  · split at h <;> cases h
    simp [WireError.faults]

theorem encodeText_faults {s : List UInt8} (h : o.encodeText s = .error e) :
    e.faults ⊆ [.enumValue, .invalidString, .tooLarge] := by
  unfold encodeText at h
  cases hc : checkText s with
  | error e' =>
    rw [hc] at h
    cases h
    exact checkText_faults hc
  | ok u =>
    rw [hc] at h
    simp only [Except.ok_bind] at h
    split_ifs at h <;> cases h
    simp [WireError.faults]

theorem encodeBits_faults {a : Arg} {v : Value} (hk : v.kindName = a.decodedType)
    (hty : a.type = .bitfield) (he : encodeBits a v = .error e) :
    e.faults ⊆ [.enumValue, .invalidString, .tooLarge] := by
  unfold Arg.decodedType at hk
  simp only [hty] at hk
  unfold encodeBits at he
  cases hb : a.base <;> simp only [hb] at hk <;> cases v <;> simp [Value.kindName] at hk <;>
    simp [hb] at he
  -- a base of another kind takes any 64-bit word that fits its width
  all_goals
    split_ifs at he
    cases he
    simp [WireError.faults]

/-- Encoding refuses a value of an argument's decoded type only for its text
or its size, except for enum and multiset arguments. -/
theorem encodeArg_faults_of_kindName {a : Arg} {v : Value} (hk : v.kindName = a.decodedType)
    (hm : a.type ≠ .multiset) (hen : a.type ≠ .enum) (he : o.encodeArg a v = .error e) :
    e.faults ⊆ [.enumValue, .invalidString, .tooLarge] := by
  rw [encodeArg.eq_def] at he
  cases hty : a.type
  case multiset => exact absurd hty hm
  case enum => exact absurd hty hen
  case bitfield =>
    simp only [hty] at he
    exact encodeBits_faults hk hty he
  case unknown k =>
    simp only [Arg.decodedType, hty] at hk
    cases v <;> simp [Value.kindName, Codegen.scalarType] at hk
  -- each scalar type leaves one kind of value, which encoding takes as it is
  all_goals
    simp only [Arg.decodedType, hty] at hk he
    cases v <;> simp [Value.kindName, Codegen.scalarType] at hk
    simp only at he
  case string => exact encodeText_faults he
  case binary =>
    split_ifs at he
    · cases he
      simp [WireError.faults]
    · cases he
  all_goals cases he

/-- Encoding refuses an `int32` for an enum argument only when no entry of
the table has that value. -/
theorem encodeArg_enum_faults {a : Arg} {x : Int32} (hty : a.type = .enum)
    (he : o.encodeArg a (.i32 x) = .error e) : e.faults ⊆ [.enumValue, .invalidString, .tooLarge] := by
  rw [encodeArg.eq_def] at he
  simp only [hty] at he
  rcases Codegen.bind_eq_error.mp he with he | ⟨_, -, he⟩
  · unfold enumEntryOf at he
    simp only at he
    split at he <;> cases he
    simp [WireError.faults]
  · cases he

end Encoded

namespace Codegen

open Schema

/-! ### Planned types -/

section Planned

variable {n : Namer} {feature command : String} {a : Arg} {src : ArgDef} {i : Nat} {ap : ArgPlan}

/-- The field type of an argument's plan is the type of the values decoded for
it, when a bitfield's base is unsigned. -/
theorem planArg_fieldType (hp : planArg n feature command a src i = .ok ap)
    (hb : a.type = .bitfield → a.base.isUnsigned) : GoType.canonical ap.fieldType = a.decodedType := by
  unfold planArg at hp
  simp only at hp
  split_ifs at hp
  · cases hp
  · cases hp
    unfold Arg.decodedType
    cases hty : a.type
    case bitfield =>
      obtain hb | hb | hb | hb := ArgType.isUnsigned_cases (hb hty) <;> simp [hb] <;> rfl
    all_goals rfl

/-- The parameter type of an argument's plan is its field type, except that an
enum is taken as an `int32`. -/
theorem planArg_paramType (hp : planArg n feature command a src i = .ok ap) :
    ap.paramType = if a.type = .enum then "int32" else ap.fieldType := by
  unfold planArg at hp
  simp only at hp
  split_ifs at hp
  · cases hp
  · cases hp
    cases hty : a.type <;> rfl

theorem encodeArg_faults_of_paramType {o : CodecOptions} {v : Value} {e : WireError}
    (hp : planArg n feature command a src i = .ok ap) (hb : a.type = .bitfield → a.base.isUnsigned)
    (hm : a.type ≠ .multiset) (hv : v.HasGoType ap.paramType) (he : o.encodeArg a v = .error e) :
    e.faults ⊆ [.enumValue, .invalidString, .tooLarge] := by
  rw [Value.HasGoType, planArg_paramType hp] at hv
  by_cases hen : a.type = .enum
  · rw [if_pos hen] at hv
    cases v <;> simp [Value.kindName, GoType.canonical] at hv
    exact encodeArg_enum_faults hen he
  · rw [if_neg hen, planArg_fieldType hp hb] at hv
    exact encodeArg_faults_of_kindName hv hm hen he

end Planned

theorem forall₂_of_zipIdx {α β : Type} {R : α × Nat → β → Prop} :
    ∀ {l : List α} {k : Nat} {bs : List β}, List.Forall₂ R (l.zipIdx k) bs →
      List.Forall₂ (fun a b => ∃ i, R (a, i) b) l bs
  | [], _, _, h => by
    cases h
    exact .nil
  | a :: l, k, bs, h => by
    rw [List.zipIdx_cons] at h
    cases h with
    | cons hab hrest => exact .cons ⟨k, hab⟩ (forall₂_of_zipIdx hrest)

theorem forall₂_across {α β γ : Type} {R : α → β → Prop} {S : α → γ → Prop} {T : β → γ → Prop}
    (h : ∀ a b c, R a b → S a c → T b c) :
    ∀ {l₁ : List α} {l₂ : List β} {l₃ : List γ}, List.Forall₂ R l₁ l₂ → List.Forall₂ S l₁ l₃ →
      List.Forall₂ T l₂ l₃
  | _, _, _, .nil, .nil => .nil
  | _, _, _, .cons hr hrs, .cons hs hss => .cons (h _ _ _ hr hs) (forall₂_across h hrs hss)

theorem planCommand_args {n : Namer} {fname : String} {X : CompiledCommand} {p : CommandPlan}
    (hp : planCommand n fname X = .ok p) :
    List.Forall₂ (fun a ap => ∃ src i, planArg n fname X.desc.name a src i = .ok ap)
      X.desc.args p.args := by
  unfold planCommand at hp
  obtain ⟨args, hargs, hp⟩ := Except.bind_eq_ok.mp hp
  cases hp
  exact (forall₂_of_zipIdx (forall₂_of_mapM_eq_ok hargs)).imp fun _ _ ⟨i, h⟩ => ⟨_, i, h⟩

/-! ### Compiled schemas -/

section Compiled

variable {defs : List FeatureDef} {s : Compiled}

theorem compiled_checkArgs (hc : compile defs = .ok s) {X : CompiledCommand}
    (hX : X ∈ s.features.flatMap (·.commands)) : ∃ drafts, X.desc.checkArgs drafts = .ok () := by
  obtain ⟨drafts, extra, hb⟩ := compile_table hc
  exact ⟨drafts, Table.build_checkArgs hb _ (List.mem_map.mpr ⟨X, hX, rfl⟩)⟩

/-- The table of a compiled schema finds each of its commands by identity. -/
theorem compiled_findByIdentity (hc : compile defs = .ok s) {X : CompiledCommand}
    (hX : X ∈ s.features.flatMap (·.commands)) {cmd : Command} :
    s.table.findByIdentity? X.desc.identity = some cmd ↔ cmd = X.desc := by
  have hfind := ((compile_consistent hc).find_identity X.desc.identity X.desc).mpr
    ⟨List.mem_map_of_mem hX, rfl⟩
  constructor
  · intro h
    rw [h] at hfind
    exact Option.some.inj hfind
  · rintro rfl
    exact hfind

end Compiled

/-- What the helpers generated for a compiled command rely on, for its plan
`p`: every payload the codec decodes for it gives values of the record's
field types, in order; a message that a registry over the schema's table
delivers for it, with the command found for its identity and the arguments
decoded against that command, passes the message check with those values;
and a value of an argument's parameter type fails encoding only for its enum
domain, its text or its size, unless the argument is a multiset. -/
structure HelpersAgree (s : Compiled) (X : CompiledCommand) (p : CommandPlan) : Prop where
  decoded : ∀ (cat : Catalog) (o : CodecOptions) (payload : List UInt8) (vs : List Value),
    o.decodeArgs cat X.desc payload = .ok vs →
      List.Forall₂ (fun ap v => v.HasGoType ap.fieldType) p.args vs
  delivered : ∀ (o : CodecOptions) (f : Frame) (cmd : Command) (vs : List Value),
    f.id = X.desc.identity → s.table.findByIdentity? f.id = some cmd →
      o.decode s.table.declarations cmd f = .ok vs →
        Message.checkAgainst (some ⟨cmd, vs⟩) X.desc = .ok vs ∧
          List.Forall₂ (fun ap v => v.HasGoType ap.fieldType) p.args vs
  encoded : List.Forall₂ (fun ap a => a.type ≠ .multiset →
      ∀ (o : CodecOptions) (v : Value) (e : WireError), v.HasGoType ap.paramType →
        o.encodeArg a v = .error e → e.faults ⊆ [.enumValue, .invalidString, .tooLarge])
    p.args X.desc.args

variable {defs : List FeatureDef} {s : Compiled}

theorem helpersAgree (hc : compile defs = .ok s) {f : CompiledFeature} (hf : f ∈ s.features)
    {X : CompiledCommand} (hX : X ∈ f.commands) {n : Namer} {p : CommandPlan}
    (hp : planCommand n f.source.name X = .ok p) : HelpersAgree s X p := by
  have hXs : X ∈ s.features.flatMap (·.commands) := List.mem_flatMap.mpr ⟨f, hf, hX⟩
  obtain ⟨drafts, hcheck⟩ := compiled_checkArgs hc hXs
  -- each argument is planned, on an unsigned base when it is a bitfield
  have hargs := (List.forall₂_and_left _ _).mpr ⟨Command.checkArgs_bitfield hcheck, planCommand_args hp⟩
  have hfields : List.Forall₂ (fun a ap => GoType.canonical ap.fieldType = a.decodedType)
      X.desc.args p.args := hargs.imp fun _ _ ⟨hb, _, _, hpa⟩ => planArg_fieldType hpa hb
  have hdecoded : ∀ (cat : Catalog) (o : CodecOptions) (payload : List UInt8) (vs : List Value),
      o.decodeArgs cat X.desc payload = .ok vs →
        List.Forall₂ (fun ap v => v.HasGoType ap.fieldType) p.args vs :=
    fun _ _ _ _ h => forall₂_across (fun _ _ _ hf hk => hk.trans hf.symm) hfields (decodeArgs_kindName h)
  refine ⟨hdecoded, ?_, ?_⟩
  · intro o fr cmd vs hid hfind hdec
    rw [hid, compiled_findByIdentity hc hXs] at hfind
    subst hfind
    have hvs := decodeArgs_kindName (decodeArgs_of_decode hdec)
    refine ⟨?_, hdecoded _ o fr.payload vs (decodeArgs_of_decode hdec)⟩
    simp [Message.checkAgainst, hvs.length_eq]
  · exact (hargs.imp fun _ _ ⟨hb, _, _, hpa⟩ hm _ _ _ hv he =>
      encodeArg_faults_of_paramType hpa hb hm hv he).flip

/-- For a schema that compiles and generates, the plans its files are written
from give every command helpers that agree with the codec. -/
theorem generated_helpers_agree (hc : compile defs = .ok s) {pkg : String} {files : List SourceFile}
    (hg : generate s pkg = .ok files) :
    ∃ n plans, nameAll s = .ok n ∧ s.features.mapM (fun f => planFeature s n f pkg) = .ok plans ∧
      List.Forall₂ (fun f fp => List.Forall₂ (HelpersAgree s) f.commands fp.commands)
        s.features plans := by
  unfold generate at hg
  obtain ⟨n, hn, hg⟩ := Except.bind_eq_ok.mp hg
  obtain ⟨plans, hplans, -⟩ := Except.bind_eq_ok.mp hg
  refine ⟨n, plans, hn, hplans, ?_⟩
  -- a feature's plan lists the plans of its commands
  refine ((List.forall₂_and_left _ _).mpr ⟨fun f hf => hf, forall₂_of_mapM_eq_ok hplans⟩).imp
    fun f fp ⟨hf, hfp⟩ => ?_
  unfold planFeature at hfp
  obtain ⟨_, -, hfp⟩ := Except.bind_eq_ok.mp hfp
  obtain ⟨cmds, hcmds, hfp⟩ := Except.bind_eq_ok.mp hfp
  cases hfp
  exact ((List.forall₂_and_left _ _).mpr ⟨fun X hX => hX, forall₂_of_mapM_eq_ok hcmds⟩).imp
    fun X p ⟨hX, hp⟩ => helpersAgree hc hf hX hp

/-- An instance: the schema of two commands whose multiset arguments carry
each other compiles and generates, and the statement above applies to it. -/
theorem generated_helpers_cycle :
    ∃ files, compile [cycleFeature] = .ok cycleCompiled ∧
      generate cycleCompiled "features" = .ok files ∧
      ∃ n plans, nameAll cycleCompiled = .ok n ∧
        cycleCompiled.features.mapM (fun f => planFeature cycleCompiled n f "features") = .ok plans ∧
        List.Forall₂ (fun f fp => List.Forall₂ (HelpersAgree cycleCompiled) f.commands fp.commands)
          cycleCompiled.features plans := by
  obtain ⟨files, hg⟩ := generate_cycle_ok
  exact ⟨files, compile_cycle, hg, generated_helpers_agree compile_cycle hg⟩

end Codegen

end DroneProtocol
