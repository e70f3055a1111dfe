import DroneProtocol.Proofs.Codegen.Descriptors
import DroneProtocol.Proofs.Codegen.Helpers
import DroneProtocol.Proofs.Schema.Names

/-! # What a generated package declares

The namer checks only the identifiers it gives, so a schema can generate a
package that declares a name twice (`generate_registry_file_clash`). Main
statement: `generate_collision_free`, the conditions that close the gap.
-/

namespace DroneProtocol.Naming

open Unicode

theorem isLower_iff_toNat {c : Char} : c.isLower ↔ 0x61 ≤ c.toNat ∧ c.toNat ≤ 0x7A := by
  simp [Char.isLower, UInt32.le_iff_toNat_le, ← Char.toNat_val]

theorem isUpper_iff_toNat {c : Char} : c.isUpper ↔ 0x41 ≤ c.toNat ∧ c.toNat ≤ 0x5A := by
  simp [Char.isUpper, UInt32.le_iff_toNat_le, ← Char.toNat_val]

theorem isLower_ofNat {n : Nat} (h : (Char.ofNat n).isLower = true) : 0x61 ≤ n ∧ n ≤ 0x7A := by
  have h' := isLower_iff_toNat.mp h
  by_cases hv : n.isValidChar
  · rwa [toNat_ofNat_of_isValidChar hv] at h'
  · simp [Char.ofNat, hv] at h'

theorem upperShifts_image_not_lower :
    ∀ r ∈ upperShifts, r.2.2 + (r.2.1 - r.1) < 0x61 ∨ 0x7A < r.2.2 := by
  decide +kernel

theorem toUpper_isLower (c : Char) : (toUpper c).isLower = false := by
  by_cases hc : c.toNat < 0x80
  case pos =>
    have h : ∀ n < 0x80, (toUpper (Char.ofNat n)).isLower = false := by decide
    simpa using h c.toNat hc
  case neg =>
    rw [Bool.eq_false_iff]
    intro hl
    unfold toUpper shift at hl
    rw [if_neg hc] at hl
    split at hl
    case h_1 r hfind =>
      have hin : r.1 ≤ c.toNat ∧ c.toNat ≤ r.2.1 := by simpa using List.find?_some hfind
      have := upperShifts_image_not_lower r (List.mem_of_find?_eq_some hfind)
      have := isLower_ofNat hl
      omega
    case h_2 =>
      have := isLower_iff_toNat.mp hl
      omega

theorem identHead_isLower (s : String) : (identHead s).isLower = false := by
  unfold identHead
  split
  case h_1 c hc =>
    split
    · decide
    · obtain ⟨d, -, rfl⟩ := Option.map_eq_some_iff.mp hc
      exact toUpper_isLower d
  case h_2 => decide

/-- A text whose first character is a lower-case ASCII letter. -/
def LowerHead (t : String) : Prop := ∃ c ∈ t.toList.head?, c.isLower = true

theorem lowerHead_append {a : String} (ha : a.toList ≠ []) (b : String) :
    LowerHead (a ++ b) ↔ LowerHead a := by
  obtain ⟨c, cs, hc⟩ := List.exists_cons_of_ne_nil ha
  simp [LowerHead, String.toList_append, hc]

theorem goName_ne_nil (s : String) : (goName s).toList ≠ [] := by
  obtain ⟨cs, hg, -⟩ := goName_toList s
  simp [hg]

theorem not_lowerHead_goName (s : String) : ¬ LowerHead (goName s) := by
  obtain ⟨cs, hg, -⟩ := goName_toList s
  simp [LowerHead, hg, identHead_isLower]

theorem isUpper_of_lt : ∀ n < 0x80, (Char.ofNat n).isAlpha = true →
    (Char.ofNat n).isLower = false → ((Char.ofNat n).toLower).toNat = n + 32 ∧
      ((Char.ofNat n).toLower).isLower = true := by
  decide

/-- Lowering the head of an identifier that starts in ASCII moves it 32 code
points down, to a lower-case letter. -/
theorem identHead_toLower {s : String} (h : (identHead s).toNat < 0x80) :
    ((identHead s).toLower).toNat = (identHead s).toNat + 32 ∧
      ((identHead s).toLower).isLower = true := by
  have hup := isUpper_of_lt _ h (by rw [Char.ofNat_toNat]; exact identHead_isAlpha h)
    (by rw [Char.ofNat_toNat]; exact identHead_isLower s)
  rwa [Char.ofNat_toNat] at hup

theorem firstLower_goName {s : String} (h : (identHead s).toNat < 0x80) :
    ∃ t, firstLower (goName s) = Utf8.encode t ∧ LowerHead t ∧ t.toList ≠ [] ∧
      ∃ cs, goName s = String.ofList (identHead s :: cs) ∧
        t = String.ofList ((identHead s).toLower :: cs) := by
  obtain ⟨cs, hg, -⟩ := goName_eq_ofList s
  refine ⟨_, by rw [hg, firstLower_of_lt cs h], ⟨_, by simp, (identHead_toLower h).2⟩, by simp,
    cs, hg, rfl⟩

theorem firstLower_goName_inj {s₁ s₂ : String} (h₁ : (identHead s₁).toNat < 0x80)
    (h₂ : (identHead s₂).toNat < 0x80) (h : firstLower (goName s₁) = firstLower (goName s₂)) :
    goName s₁ = goName s₂ := by
  obtain ⟨t₁, he₁, -, -, cs₁, hg₁, rfl⟩ := firstLower_goName h₁
  obtain ⟨t₂, he₂, -, -, cs₂, hg₂, rfl⟩ := firstLower_goName h₂
  have hl := congrArg String.toList (Utf8.encode_injective (he₁.symm.trans (h.trans he₂)))
  simp only [String.toList_ofList, List.cons.injEq] at hl
  -- lowering moves both heads by the same offset, so they were one character
  have hhead : identHead s₁ = identHead s₂ := by
    rw [← Char.toNat_inj]
    have := congrArg Char.toNat hl.1
    have := (identHead_toLower h₁).1
    have := (identHead_toLower h₂).1
    omega
  rw [hg₁, hg₂, hhead, hl.2]

/-- A parameter name is never the name of a parameter the helpers declare
themselves. -/
theorem paramName_ne_reserved (s : String) {r : String} (hr : r ∈ reservedParams) :
    paramName s ≠ Utf8.encode r := by
  intro h
  unfold paramName at h
  dsimp only at h
  split at h
  case h_1 t hdec =>
    split at h
    case isTrue =>
      rw [← Utf8.encode_injective h] at hr
      exact (append_arg_not_reserved t).2 hr
    case isFalse hnot =>
      rw [h, Utf8.decode?_encode, Option.some.injEq] at hdec
      subst hdec
      simp [hr] at hnot
  case h_2 hdec =>
    rw [h, Utf8.decode?_encode] at hdec
    cases hdec

theorem not_lowerHead_goName_append (s t : String) : ¬ LowerHead (goName s ++ t) := by
  rw [lowerHead_append (goName_ne_nil s)]
  exact not_lowerHead_goName s

theorem not_lowerHead_of_isUpper {a : String} (ha : ∃ c cs, a.toList = c :: cs ∧ c.isUpper) :
    ¬ LowerHead a := by
  obtain ⟨c, cs, hc, hup⟩ := ha
  rintro ⟨d, hd, hl⟩
  simp only [hc, List.head?_cons, Option.mem_def, Option.some.injEq] at hd
  subst hd
  have := isUpper_iff_toNat.mp hup
  have := isLower_iff_toNat.mp hl
  omega

theorem not_lowerHead_literal_append {a : String} (ha : ∃ c cs, a.toList = c :: cs ∧ c.isUpper)
    (t : String) : ¬ LowerHead (a ++ t) := by
  obtain ⟨c, cs, hc, hup⟩ := ha
  rw [lowerHead_append (by simp [hc])]
  exact not_lowerHead_of_isUpper ⟨c, cs, hc, hup⟩

end DroneProtocol.Naming

namespace DroneProtocol.Codegen

open Schema Naming

/-! ## The names a package declares -/

/-- The package-level names a command's helpers declare: its descriptor, its
identity, its encoder, sender and binder, and with arguments its decoder and
record. -/
def CommandPlan.declared (c : CommandPlan) : List String :=
  if c.args.isEmpty then [c.ident, "ID" ++ c.ident, "Encode" ++ c.ident, "Send" ++ c.ident,
    "On" ++ c.ident]
  else [c.ident, "ID" ++ c.ident, "Encode" ++ c.ident, "Send" ++ c.ident, "Decode" ++ c.ident,
    "On" ++ c.ident, c.ident ++ "Args"]

/-- The parameters of a command's sender: the interface, the status callback,
then one per argument. -/
def CommandPlan.sendParams (c : CommandPlan) : List (List UInt8) :=
  Utf8.encode "itf" :: Utf8.encode "status" :: c.args.map (·.param)

/-- The names a feature's file declares from the namer's identifiers: its id,
its enum tables and value constants, its commands' helpers, its multisets. -/
def FeaturePlan.idents (f : FeaturePlan) : List String :=
  (f.ident ++ "ID") :: (f.enums.flatMap (fun e => e.ident :: e.values.map (·.const)) ++
    (f.commands.flatMap CommandPlan.declared ++ f.multisets.map (·.ident)))

/-- The variables listing a feature's commands and, when it has any, its
multisets. -/
def FeaturePlan.lists (f : FeaturePlan) : List (List UInt8) :=
  f.commandList :: if f.multisets.isEmpty then [] else [f.multisetList]

def registryDeclared : List (List UInt8) := ["Commands", "Multisets", "NewTable"].map Utf8.encode

/-- Every package-level name the files generated from `plans` declare, as
their text spells it. -/
def packageDeclared (plans : List FeaturePlan) : List (List UInt8) :=
  plans.flatMap (fun f => f.idents.map Utf8.encode ++ f.lists) ++ registryDeclared

/-! ## Plans -/

section Plans

variable {s : Compiled} {n : Namer} {pkg : String}

theorem planFeature_names {f : CompiledFeature} {p : FeaturePlan}
    (h : planFeature s n f pkg = .ok p) :
    p.ident = goName f.source.name ∧
      p.commandList = firstLower (goName f.source.name) ++ Utf8.encode "Commands" ∧
      p.multisetList = firstLower (goName f.source.name) ++ Utf8.encode "Multisets" := by
  unfold planFeature at h
  obtain ⟨ms, -, h⟩ := Except.bind_eq_ok.mp h
  obtain ⟨cmds, -, h⟩ := Except.bind_eq_ok.mp h
  cases h
  exact ⟨rfl, rfl, rfl⟩

theorem planArg_names {feature command : String} {a : Arg} {src : ArgDef} {i : Nat} {ap : ArgPlan}
    (h : planArg n feature command a src i = .ok ap) :
    ap.field = goName a.name ∧ ap.param = paramName a.name := by
  unfold planArg at h
  simp only at h
  split_ifs at h
  · cases h
  · cases h
    split <;> exact ⟨rfl, rfl⟩

/-- A command's record fields and parameters are those of its arguments'
names. -/
theorem planCommand_names {fname : String} {c : CompiledCommand} {p : CommandPlan}
    (h : planCommand n fname c = .ok p) :
    p.args.map (·.field) = c.desc.args.map (goName ·.name) ∧
      p.args.map (·.param) = c.desc.args.map (paramName ·.name) := by
  have hargs := (planCommand_args h).imp fun _ _ h => by
    obtain ⟨_, _, ha⟩ := h
    exact planArg_names ha
  exact ⟨eq_map_of_forall₂ (List.forall₂_map_right_iff.mpr (hargs.imp fun _ _ h => h.1)),
    eq_map_of_forall₂ (List.forall₂_map_right_iff.mpr (hargs.imp fun _ _ h => h.2))⟩

end Plans

/-! ## The namer's identifiers in the files -/

section Idents

variable {defs : List FeatureDef} {s : Compiled} {n : Namer} {pkg : String}

theorem sublist_flatMap_of_forall₂ {α β γ : Type} {F : α → List γ} {G : β → List γ} :
    ∀ {as : List α} {bs : List β}, List.Forall₂ (fun a b => (F a).Sublist (G b)) as bs →
      (as.flatMap F).Sublist (bs.flatMap G)
  | _, _, .nil => .slnil
  | _, _, .cons h hs => by
    rw [List.flatMap_cons, List.flatMap_cons]
    exact h.append (sublist_flatMap_of_forall₂ hs)

theorem CommandPlan.declared_sublist {prefix_ : String} {c : CompiledCommand} {cp : CommandPlan}
    (h : cp.ident = commandIdent prefix_ c) :
    cp.declared.Sublist ((commandIdents prefix_ c).map Prod.fst) := by
  unfold CommandPlan.declared
  simp only [commandIdents, List.map_cons, List.map_nil, h]
  split
  -- without arguments, the decoder and the record are left out
  · exact .cons_cons _ (.cons_cons _ (.cons_cons _ (.cons_cons _
      (.cons _ (.cons_cons _ (.cons _ .slnil))))))
  · exact List.Sublist.refl _

/-- A feature's file declares some of the identifiers the namer gave the
feature, in the namer's order. -/
theorem FeaturePlan.idents_sublist (hc : compile defs = .ok s) (hn : nameAll s = .ok n)
    {f : CompiledFeature} (hf : f ∈ s.features) {p : FeaturePlan}
    (hp : planFeature s n f pkg = .ok p) :
    p.idents.Sublist ((featureIdents s f).map Prod.fst) := by
  have hres := compile_resolves hc
  obtain ⟨henums, hcmds, hms⟩ := planFeature_eq_ok hp
  have hcmds' := (List.forall₂_and_left _ _).mpr ⟨fun c hc => hc, hcmds⟩
  have hms' := (List.forall₂_and_left _ _).mpr ⟨fun m hm => hm, hms⟩
  -- the enum tables and values are named as the namer named them
  have henumIdents : p.enums.flatMap (fun e => e.ident :: e.values.map (·.const)) =
      (f.enums.flatMap (enumIdents f.source.name (goName f.source.name))).map Prod.fst := by
    rw [henums, List.flatMap_map, List.map_flatMap]
    refine List.flatMap_congr fun e he => ?_
    simp [planEnum, enumIdents, nameAll_enum hres hn hf he, enumEntry]
  -- and so are the multisets
  have hmsIdents : p.multisets.map (·.ident) =
      (featureMultisets s f).map fun m => multisetIdent (goName f.source.name) m :=
    eq_map_of_forall₂ (List.forall₂_map_right_iff.mpr (hms'.imp fun _ _ h => by
      simp [planMultiset_eq_ok h.2, nameAll_multiset hres hn hf h.1]))
  have hcmdIdents : (p.commands.flatMap CommandPlan.declared).Sublist
      ((f.commands.flatMap (commandIdents (goName f.source.name))).map Prod.fst) := by
    rw [List.map_flatMap]
    exact sublist_flatMap_of_forall₂ (hcmds'.flip.imp fun _ _ h =>
      CommandPlan.declared_sublist (by rw [planCommand_ident h.2, nameAll_command hc hn hf h.1]; rfl))
  simp only [FeaturePlan.idents, featureIdents, (planFeature_names hp).1, List.map_cons,
    List.map_append, henumIdents, hmsIdents, List.map_map]
  exact .cons_cons _ (.append (List.Sublist.refl _) (.append hcmdIdents (List.Sublist.refl _)))

theorem commandIdent_eq (prefix_ : String) (c : CompiledCommand) :
    ∃ t, commandIdent prefix_ c = prefix_ ++ t := by
  unfold commandIdent
  split
  · exact ⟨_, rfl⟩
  · exact ⟨_, String.append_assoc⟩

/-- No identifier the namer gives starts with a lower-case letter: each starts
with the feature's name or with a capital. -/
theorem not_lowerHead_featureIdents (s : Compiled) (f : CompiledFeature) :
    ∀ i ∈ (featureIdents s f).map Prod.fst, ¬ LowerHead i := by
  have hname := not_lowerHead_goName_append f.source.name
  have hcmd : ∀ c t, ¬ LowerHead (commandIdent (goName f.source.name) c ++ t) := by
    intro c t
    obtain ⟨u, hu⟩ := commandIdent_eq (goName f.source.name) c
    rw [hu, String.append_assoc]
    exact hname _
  have hlit : ∀ a ∈ ["ID", "Encode", "Send", "Decode", "On"], ∀ t, ¬ LowerHead (a ++ t) := by
    intro a ha t
    refine not_lowerHead_literal_append ?_ t
    simp only [List.mem_cons, List.not_mem_nil, or_false] at ha
    rcases ha with rfl | rfl | rfl | rfl | rfl <;> exact ⟨_, _, rfl, by decide⟩
  intro i hi
  simp only [featureIdents, enumIdents, commandIdents, List.map_cons, List.map_append,
    List.map_flatMap, List.map_map, List.map_nil, List.mem_cons, List.mem_append, List.mem_flatMap,
    List.mem_map, Function.comp_apply, List.not_mem_nil, or_false] at hi
  rcases hi with rfl | ⟨e, -, rfl | ⟨v, -, rfl⟩⟩ | ⟨c, -, hc⟩ | ⟨m, -, rfl⟩
  case inl => exact hname _
  case inr.inl.inl => simpa only [String.append_assoc] using hname _
  case inr.inl.inr => simpa only [String.append_assoc] using hname _
  case inr.inr.inr => simpa only [multisetIdent, String.append_assoc] using hname _
  case inr.inr.inl =>
    rcases hc with rfl | rfl | rfl | rfl | rfl | rfl | rfl
    · simpa using hcmd c ""
    · exact hlit "ID" (by simp) _
    · exact hlit "Encode" (by simp) _
    · exact hlit "Send" (by simp) _
    · exact hlit "Decode" (by simp) _
    · exact hlit "On" (by simp) _
    · exact hcmd c "Args"

/-- The identifiers the files of the plans declare are some of the namer's, in
its order. -/
theorem plans_idents_sublist {plans : List FeaturePlan} (hc : compile defs = .ok s)
    (hn : nameAll s = .ok n) (hp : s.features.mapM (fun f => planFeature s n f pkg) = .ok plans) :
    (plans.flatMap FeaturePlan.idents).Sublist ((schemaIdents s).map Prod.fst) := by
  rw [schemaIdents, List.map_flatMap]
  exact sublist_flatMap_of_forall₂ ((plans_forall₂ hp).flip.imp fun _ _ h =>
    FeaturePlan.idents_sublist hc hn h.1 h.2)

/-- Each file's first identifier is its feature's, so distinct identifiers
give distinct feature names. -/
theorem plans_ident_nodup {plans : List FeaturePlan} (h : (plans.flatMap FeaturePlan.idents).Nodup) :
    (plans.map (·.ident)).Nodup := by
  have hsub : ((plans.map (·.ident)).map (· ++ "ID")).Sublist (plans.flatMap FeaturePlan.idents) := by
    rw [List.map_map]
    exact map_sublist_flatMap fun p _ => List.mem_cons_self ..
  exact (hsub.nodup h).of_map _

end Idents

/-! ## The list variables -/

section Lists

variable {s : Compiled} {n : Namer} {pkg : String}

def listSuffixes : List String := ["Commands", "Multisets"]

theorem FeaturePlan.lists_sublist {f : CompiledFeature} {p : FeaturePlan}
    (hp : planFeature s n f pkg = .ok p) :
    p.lists.Sublist (listSuffixes.map (firstLower (goName f.source.name) ++ Utf8.encode ·)) := by
  obtain ⟨-, hcl, hml⟩ := planFeature_names hp
  simp only [FeaturePlan.lists, listSuffixes, List.map_cons, List.map_nil, ← hcl, ← hml]
  split
  · exact .cons_cons _ (List.nil_sublist _)
  · exact List.Sublist.refl _

theorem append_listSuffixes_inj {a b : List UInt8} {x y : String} (hx : x ∈ listSuffixes)
    (hy : y ∈ listSuffixes) (h : a ++ Utf8.encode x = b ++ Utf8.encode y) : a = b ∧ x = y := by
  have hxy : x = y := by
    -- both suffixes end the same bytes, and neither of the two ends the other
    have hs := List.suffix_or_suffix_of_suffix (h ▸ List.suffix_append a _) (List.suffix_append b _)
    simp only [listSuffixes, List.mem_cons, List.not_mem_nil, or_false] at hx hy
    rcases hx with rfl | rfl <;> rcases hy with rfl | rfl <;> first | rfl | (revert hs; decide)
  subst hxy
  exact ⟨List.append_cancel_right h, rfl⟩

/-- The list variables of the features are distinct when their names start in
ASCII and their identifiers are distinct. -/
theorem plans_lists_nodup {plans : List FeaturePlan}
    (hplans : ∀ p ∈ plans, ∃ f, (identHead f.source.name).toNat < 0x80 ∧
      planFeature s n f pkg = .ok p)
    (hident : (plans.map (·.ident)).Nodup) :
    (plans.flatMap FeaturePlan.lists).Nodup := by
  choose! feat hascii hfeat using hplans
  refine (List.Sublist.flatMap_right plans fun p hp => FeaturePlan.lists_sublist (hfeat p hp)).nodup
    (List.nodup_flatMap.mpr ⟨fun p _ => ?_, ?_⟩)
  case refine_1 =>
    exact List.Nodup.map (fun _ _ h => Utf8.encode_injective (List.append_cancel_left h)) (by decide)
  -- variables of two features differ in their stems, which the feature names fix
  case refine_2 =>
    refine (List.pairwise_map.mp hident).imp_of_mem fun hp₁ hp₂ hne x hx₁ hx₂ => ?_
    obtain ⟨u₁, hu₁, rfl⟩ := List.mem_map.mp hx₁
    obtain ⟨u₂, hu₂, heq⟩ := List.mem_map.mp hx₂
    have hstem := (append_listSuffixes_inj hu₂ hu₁ heq).1
    apply hne
    rw [(planFeature_names (hfeat _ hp₁)).1, (planFeature_names (hfeat _ hp₂)).1]
    exact (firstLower_goName_inj (hascii _ hp₂) (hascii _ hp₁) hstem).symm

end Lists

/-! ## Every name once -/

section Package

variable {defs : List FeatureDef} {s : Compiled} {n : Namer} {pkg : String}
  {plans : List FeaturePlan}

theorem encode_ne_of_lowerHead {i t : String} (hi : ¬ LowerHead i) (ht : LowerHead t) :
    Utf8.encode i ≠ Utf8.encode t :=
  fun h => hi (Utf8.encode_injective h ▸ ht)

theorem not_lowerHead_schemaIdents (s : Compiled) :
    ∀ i ∈ (schemaIdents s).map Prod.fst, ¬ LowerHead i := by
  intro i hi
  rw [schemaIdents, List.map_flatMap, List.mem_flatMap] at hi
  obtain ⟨f, -, hi⟩ := hi
  exact not_lowerHead_featureIdents s f i hi

theorem registryDeclared_not_lowerHead :
    ∀ r ∈ registryDeclared, ∃ i, ¬ LowerHead i ∧ r = Utf8.encode i := by
  have h : ∀ i ∈ ["Commands", "Multisets", "NewTable"], ¬ LowerHead i := by
    intro i hi
    simp only [List.mem_cons, List.not_mem_nil, or_false] at hi
    rcases hi with rfl | rfl | rfl <;> exact not_lowerHead_of_isUpper ⟨_, _, rfl, by decide⟩
  simp only [registryDeclared, List.mem_map]
  rintro r ⟨i, hi, rfl⟩
  exact ⟨i, h i hi, rfl⟩

theorem FeaturePlan.lists_lowerHead {f : CompiledFeature} {p : FeaturePlan}
    (hp : planFeature s n f pkg = .ok p) (hascii : (identHead f.source.name).toNat < 0x80) :
    ∀ b ∈ p.lists, ∃ t, LowerHead t ∧ b = Utf8.encode t := by
  obtain ⟨t, he, hl, hne, -⟩ := firstLower_goName hascii
  intro b hb
  obtain ⟨u, -, rfl⟩ := List.mem_map.mp ((FeaturePlan.lists_sublist hp).subset hb)
  exact ⟨t ++ u, (lowerHead_append hne u).mpr hl, by rw [he, Utf8.encode_append]⟩

theorem plans_lists_lowerHead {plans : List FeaturePlan}
    (hplans : ∀ p ∈ plans, ∃ f, (identHead f.source.name).toNat < 0x80 ∧
      planFeature s n f pkg = .ok p) :
    ∀ b ∈ plans.flatMap FeaturePlan.lists, ∃ t, LowerHead t ∧ b = Utf8.encode t := by
  intro b hb
  obtain ⟨p, hp, hb⟩ := List.mem_flatMap.mp hb
  obtain ⟨f, hascii, hfp⟩ := hplans p hp
  exact FeaturePlan.lists_lowerHead hfp hascii b hb

/-- The names of a package gathered by kind: the namer's identifiers, the list
variables, the registry's names. -/
theorem packageDeclared_perm (plans : List FeaturePlan) :
    (packageDeclared plans).Perm ((plans.flatMap FeaturePlan.idents).map Utf8.encode ++
      plans.flatMap FeaturePlan.lists ++ registryDeclared) := by
  rw [packageDeclared, List.map_flatMap]
  exact (List.flatMap_append_perm ..).symm.append_right _

/-- The package-level names of a planned schema are distinct when the feature
names start in ASCII and no identifier of the namer is a name of the registry. -/
theorem packageDeclared_nodup (hc : compile defs = .ok s) (hn : nameAll s = .ok n)
    (hp : s.features.mapM (fun f => planFeature s n f pkg) = .ok plans)
    (hascii : ∀ f ∈ s.features, (identHead f.source.name).toNat < 0x80)
    (hreg : ∀ i ∈ (schemaIdents s).map Prod.fst, Utf8.encode i ∉ registryDeclared) :
    (packageDeclared plans).Nodup := by
  have hsub := plans_idents_sublist hc hn hp
  have hidents := hsub.nodup ((nameAll_ok_iff s).mp ⟨n, hn⟩)
  have hplans : ∀ p ∈ plans, ∃ f, (identHead f.source.name).toNat < 0x80 ∧
      planFeature s n f pkg = .ok p := by
    intro p hp'
    obtain ⟨f, -, hf, hfp⟩ := exists_of_forall₂_mem_right (plans_forall₂ hp) hp'
    exact ⟨f, hascii f hf, hfp⟩
  have hlists := plans_lists_lowerHead hplans
  rw [(packageDeclared_perm plans).nodup_iff, List.nodup_append, List.nodup_append]
  refine ⟨⟨hidents.map fun _ _ => Utf8.encode_injective,
    plans_lists_nodup hplans (plans_ident_nodup hidents), ?_⟩, by decide, ?_⟩
  -- an identifier of the namer against a list variable
  case refine_1 =>
    intro a ha b hb
    obtain ⟨i, hi, rfl⟩ := List.mem_map.mp ha
    obtain ⟨t, ht, rfl⟩ := hlists b hb
    exact encode_ne_of_lowerHead (not_lowerHead_schemaIdents s i (hsub.subset hi)) ht
  -- a name of a feature file against a name of the registry
  case refine_2 =>
    intro x hx r hr
    rcases List.mem_append.mp hx with ha | hb
    · obtain ⟨i, hi, rfl⟩ := List.mem_map.mp ha
      rintro rfl
      exact hreg i (hsub.subset hi) hr
    · obtain ⟨t, ht, rfl⟩ := hlists x hb
      obtain ⟨i, hi, rfl⟩ := registryDeclared_not_lowerHead r hr
      exact (encode_ne_of_lowerHead hi ht).symm

/-- A sender's parameters are distinct when its arguments' parameter names are:
those never take the names of the interface and of the status callback. -/
theorem CommandPlan.sendParams_nodup {fname : String} {c : CompiledCommand} {cp : CommandPlan}
    (h : planCommand n fname c = .ok cp) (hargs : (c.desc.args.map fun a => paramName a.name).Nodup) :
    cp.sendParams.Nodup := by
  have hreserved : ∀ r ∈ reservedParams, Utf8.encode r ∉ cp.args.map (·.param) := by
    intro r hr hmem
    rw [(planCommand_names h).2] at hmem
    obtain ⟨a, -, ha⟩ := List.mem_map.mp hmem
    exact paramName_ne_reserved a.name hr ha
  unfold CommandPlan.sendParams
  refine List.nodup_cons.mpr ⟨?_, List.nodup_cons.mpr ⟨hreserved "status" (by decide), ?_⟩⟩
  · simp only [List.mem_cons, not_or]
    exact ⟨by decide, hreserved "itf" (by decide)⟩
  · rw [(planCommand_names h).2]
    exact hargs

/-- What a successful generation guarantees: the files have distinct names
when the features' file names differ from each other and from the registry's;
and, when the feature names start in ASCII, no identifier of the namer is a
name of the registry and each command's arguments have distinct field and
parameter names, no package-level name is declared twice and no record or
sender declares a field or parameter twice. -/
theorem generate_collision_free {files : List SourceFile} (hc : compile defs = .ok s)
    (hg : generate s pkg = .ok files)
    (hfiles : ((s.features.map fun f => fileName f.source.name) ++ ["registry"]).Nodup)
    (hascii : ∀ f ∈ s.features, (identHead f.source.name).toNat < 0x80)
    (hreg : ∀ i ∈ (schemaIdents s).map Prod.fst, Utf8.encode i ∉ registryDeclared)
    (hargs : ∀ f ∈ s.features, ∀ c ∈ f.commands,
      (c.desc.args.map fun a => goName a.name).Nodup ∧
        (c.desc.args.map fun a => paramName a.name).Nodup) :
    (files.map (·.name)).Nodup ∧
      ∃ n plans, nameAll s = .ok n ∧ s.features.mapM (fun f => planFeature s n f pkg) = .ok plans ∧
        (packageDeclared plans).Nodup ∧
        ∀ p ∈ plans, ∀ c ∈ p.commands, (c.args.map (·.field)).Nodup ∧ c.sendParams.Nodup := by
  have hnames : (files.map (·.name)).Nodup := by
    have h : (s.features.map fun f => fileName f.source.name ++ "_gen.go") ++ ["registry_gen.go"] =
        ((s.features.map fun f => fileName f.source.name) ++ ["registry"]).map (· ++ "_gen.go") := by
      simp only [List.map_append, List.map_map]
      rfl
    rw [generate_names hg, h]
    exact hfiles.map fun _ _ => (String.append_left_inj _).mp
  unfold generate at hg
  obtain ⟨n, hn, hg⟩ := Except.bind_eq_ok.mp hg
  obtain ⟨plans, hp, -⟩ := Except.bind_eq_ok.mp hg
  refine ⟨hnames, n, plans, hn, hp, packageDeclared_nodup hc hn hp hascii hreg, ?_⟩
  intro p hp' cp hcp
  obtain ⟨f, -, hf, hfp⟩ := exists_of_forall₂_mem_right (plans_forall₂ hp) hp'
  obtain ⟨c, hc', hcc⟩ := exists_of_forall₂_mem_right (planFeature_eq_ok hfp).2.1 hcp
  obtain ⟨hfield, hparam⟩ := hargs f hf c hc'
  exact ⟨(planCommand_names hcc).1 ▸ hfield, CommandPlan.sendParams_nodup hcc hparam⟩

/-- The schema `cycleFeature` compiles to meets the conditions. -/
theorem generate_cycle_collision_free :
    ∃ files, generate cycleCompiled "features" = .ok files ∧ (files.map (·.name)).Nodup ∧
      ∃ n plans, nameAll cycleCompiled = .ok n ∧
        cycleCompiled.features.mapM (fun f => planFeature cycleCompiled n f "features") = .ok plans ∧
        (packageDeclared plans).Nodup ∧
        ∀ p ∈ plans, ∀ c ∈ p.commands, (c.args.map (·.field)).Nodup ∧ c.sendParams.Nodup := by
  obtain ⟨files, hg⟩ := generate_cycle_ok
  have hfiles : ((cycleCompiled.features.map fun f => fileName f.source.name) ++ ["registry"]).Nodup := by
    decide
  have hascii : ∀ f ∈ cycleCompiled.features, (identHead f.source.name).toNat < 0x80 := by decide
  have hreg : ∀ i ∈ (schemaIdents cycleCompiled).map Prod.fst, Utf8.encode i ∉ registryDeclared := by
    decide
  have hargs : ∀ f ∈ cycleCompiled.features, ∀ c ∈ f.commands,
      (c.desc.args.map fun a => goName a.name).Nodup ∧
        (c.desc.args.map fun a => paramName a.name).Nodup := by
    decide
  exact ⟨files, hg, generate_collision_free compile_cycle hg hfiles hascii hreg hargs⟩

end Package

end DroneProtocol.Codegen
