import Mathlib.Data.List.Nodup
import Mathlib.Data.List.Perm.Basic
import DroneProtocol.Descriptor.Table
import DroneProtocol.Proofs.Wire.Reading
import DroneProtocol.Proofs.Descriptor.Reachable

/-! # How a table files one command

What each step of `Table.add` can do (`place`, `featureFor`, `classFor`,
`refile`), assembled into one inversion lemma, `add_eq_ok_iff`, from which
every later fact about features and classes is derived. -/

namespace DroneProtocol

/-- Whether a command's name is `feature.command`, so that it belongs to the
default class of its feature. -/
def Command.classless (c : Command) : Bool := (c.name.splitOn ".").length == 2

namespace Table

section Refile

variable {α : Type} {name : α → String} {x : α} {l : List α}

/-- Putting `x` in place of the one entry of its name gives, up to order, `x`
and the entries of the other names. -/
theorem map_replace_perm :
    ∀ {l : List α}, (l.map name).Nodup → (∃ y ∈ l, name y = name x) →
      (l.map fun y => if name y == name x then x else y).Perm
        (x :: l.filter (name · != name x))
  | [], _, ⟨_, hy, _⟩ => absurd hy List.not_mem_nil
  | y :: l, hnd, ⟨z, hz, hzname⟩ => by
    rw [List.map_cons, List.nodup_cons] at hnd
    by_cases hy : name y = name x
    · -- `y` is the entry replaced, and no other entry has its name
      have hrest : ∀ w ∈ l, name w ≠ name x := fun w hw h =>
        hnd.1 (List.mem_map.mpr ⟨w, hw, h.trans hy.symm⟩)
      have hmap : (l.map fun y => if name y == name x then x else y) = l :=
        (List.map_congr_left fun w hw => by simp [hrest w hw]).trans (List.map_id' l)
      have hfilter : l.filter (name · != name x) = l :=
        List.filter_eq_self.mpr fun w hw => by simp [hrest w hw]
      simp only [List.map_cons, hy, beq_self_eq_true, if_true, hmap, List.filter_cons,
        bne_self_eq_false, Bool.false_eq_true, if_false, hfilter, List.Perm.refl]
    · have hz' : z ∈ l := by
        rcases List.mem_cons.mp hz with rfl | hz
        · exact absurd hzname hy
        · exact hz
      have hb : (name y == name x) = false := by simpa using hy
      have hb' : (name y != name x) = true := by simpa using hy
      simp only [List.map_cons, hb, Bool.false_eq_true, if_false, List.filter_cons, hb', if_true]
      exact ((map_replace_perm hnd.2 ⟨z, hz', hzname⟩).cons y).trans (List.Perm.swap x y _)

/-- Refiling among entries of distinct names puts the new entry in place of
the one of its name, or adds it: up to order, the new entry and the entries
of the other names. -/
theorem refile_perm (hnd : (l.map name).Nodup) :
    (refile name x l).Perm (x :: l.filter (name · != name x)) := by
  unfold refile
  split
  · rename_i hany
    obtain ⟨y, hy, hname⟩ := List.any_eq_true.mp hany
    exact map_replace_perm hnd ⟨y, hy, by simpa using hname⟩
  · rename_i hany
    have hne : ∀ z ∈ l, (name z != name x) = true := by
      simpa using hany
    rw [List.filter_eq_self.mpr hne]
    exact List.perm_append_singleton x l

theorem mem_refile (hnd : (l.map name).Nodup) {y : α} :
    y ∈ refile name x l ↔ y = x ∨ y ∈ l ∧ name y ≠ name x := by
  simp [(refile_perm hnd).mem_iff]

/-- After a refiling, an attribute stays distinct across entries as long as
the new entry's value is not that of an entry of another name. -/
theorem nodup_map_refile {β : Type} {g : α → β} (hnd : (l.map name).Nodup) (hg : (l.map g).Nodup)
    (hx : ∀ y ∈ l, name y ≠ name x → g y ≠ g x) : ((refile name x l).map g).Nodup := by
  rw [((refile_perm hnd).map g).nodup_iff, List.map_cons, List.nodup_cons]
  refine ⟨?_, (List.filter_sublist.map g).nodup hg⟩
  simp only [List.mem_map, List.mem_filter, bne_iff_ne, ne_eq, not_exists, not_and]
  intro y ⟨hy, hname⟩
  exact hx y hy hname

end Refile

variable {t t' : Table} {cmd : Command}

/-- A command is placed when every component of its name is non-empty and
the name is `feature.command` with class id 0, filed in the default class,
or `feature.class.command`. -/
theorem place_eq_ok {fname kname short : String} {isDefault : Bool} :
    place cmd = .ok (fname, kname, short, isDefault) ↔
      (∀ s ∈ cmd.name.splitOn ".", s ≠ "") ∧
        (cmd.name.splitOn "." = [fname, short] ∧ kname = defaultClassName ∧ isDefault = true ∧
            cmd.cls = 0 ∨
          cmd.name.splitOn "." = [fname, kname, short] ∧ isDefault = false) := by
  unfold place
  by_cases hempty : ((cmd.name.splitOn ".").any fun s => s.isEmpty) = true
  · obtain ⟨s, hs, he⟩ := List.any_eq_true.mp hempty
    rw [if_pos hempty]
    simp only [Except.throw_eq_error, Except.error_bind, reduceCtorEq, false_iff, not_and]
    exact fun hne => absurd (by simpa using he) (hne s hs)
  · rw [if_neg hempty]
    have hne : ∀ s ∈ cmd.name.splitOn ".", s ≠ "" := fun s hs h =>
      hempty (List.any_eq_true.mpr ⟨s, hs, by simp [h]⟩)
    rw [and_iff_right hne]
    generalize cmd.name.splitOn "." = parts
    rcases parts with _ | ⟨a, _ | ⟨b, _ | ⟨c, _ | ⟨d, rest⟩⟩⟩⟩
    case cons.cons.nil =>
      by_cases hc : cmd.cls = 0
      · simp only [hc, List.cons.injEq, and_true, reduceCtorEq, and_false]
        simp only [ne_eq, not_true_eq_false, if_false, Except.pure_eq_ok, Except.ok.injEq,
          Prod.mk.injEq]
        grind
      · simp [hc]
    all_goals simp [and_assoc]

section Placed

variable {fname kname short : String} {isDefault : Bool}

theorem place_splitOn (h : place cmd = .ok (fname, kname, short, isDefault)) :
    cmd.name.splitOn "." = [fname, short] ∧ kname = defaultClassName ∧ isDefault = true ∨
      cmd.name.splitOn "." = [fname, kname, short] ∧ isDefault = false := by
  rcases (place_eq_ok.mp h).2 with ⟨hparts, hk, hd, -⟩ | hthree
  exacts [.inl ⟨hparts, hk, hd⟩, .inr hthree]

theorem place_path (h : place cmd = .ok (fname, kname, short, isDefault)) :
    cmd.path = (fname, kname, short) := by
  unfold Command.path
  rcases place_splitOn h with ⟨hparts, rfl, -⟩ | ⟨hparts, -⟩ <;> rw [hparts]

theorem place_classless (h : place cmd = .ok (fname, kname, short, isDefault)) :
    cmd.classless = isDefault := by
  unfold Command.classless
  rcases place_splitOn h with ⟨hparts, -, rfl⟩ | ⟨hparts, rfl⟩ <;> simp [hparts]

theorem place_shortName (h : place cmd = .ok (fname, kname, short, isDefault)) :
    cmd.shortName = short := by
  simp [Command.shortName, place_path h]

end Placed

/-- The feature a command joins is the one of its name, carrying its feature
id, or a new one whose id no feature carries. -/
theorem featureFor_eq_ok {fname : String} {feature : FeatureInfo} :
    t.featureFor cmd fname = .ok feature ↔
      t.features.find? (·.name == fname) = some feature ∧ feature.id = cmd.feature ∨
        t.features.find? (·.name == fname) = none ∧ t.features.find? (·.id == cmd.feature) = none ∧
          feature = ⟨fname, cmd.feature, []⟩ := by
  unfold featureFor
  cases hname : t.features.find? (·.name == fname) with
  | none =>
    cases hid : t.features.find? (·.id == cmd.feature) with
    | none => simpa using eq_comm
    | some other => simp
  | some f =>
    by_cases hf : f.id = cmd.feature
    · simp only [hf, ne_eq, not_true_eq_false, if_false, Except.pure_eq_ok, Except.ok.injEq,
        Option.some.injEq, reduceCtorEq, false_and, or_false]
      exact ⟨fun h => ⟨h, h ▸ hf⟩, fun h => h.1⟩
    · simp only [hf, ne_eq, not_false_eq_true, if_true, Except.throw_eq_error, reduceCtorEq,
        Option.some.injEq, false_and, or_false, false_iff, not_and]
      rintro rfl
      exact hf

/-- The class a command joins is the one of its name, carrying its class id
and its default flag, or a new one whose id no class of the feature carries. -/
theorem classFor_eq_ok {feature : FeatureInfo} {kname : String} {isDefault : Bool}
    {cls : ClassInfo} :
    classFor feature cmd kname isDefault = .ok cls ↔
      feature.cls? kname = some cls ∧ cls.id = cmd.cls ∧ cls.isDefault = isDefault ∨
        feature.cls? kname = none ∧ feature.classes.find? (·.id == cmd.cls) = none ∧
          cls = ⟨kname, cmd.cls, isDefault, []⟩ := by
  unfold classFor
  cases hname : feature.cls? kname with
  | none =>
    cases hid : feature.classes.find? (·.id == cmd.cls) with
    | none => simpa using eq_comm
    | some other => simp
  | some c =>
    by_cases hc : c.id = cmd.cls ∧ c.isDefault = isDefault
    · simp only [hc, ne_eq, not_true_eq_false, or_self, if_false, Except.pure_eq_ok,
        Except.ok.injEq, Option.some.injEq, reduceCtorEq, false_and, or_false]
      exact ⟨fun h => ⟨h, h ▸ hc.1, h ▸ hc.2⟩, fun h => h.1⟩
    · have hc' : c.id ≠ cmd.cls ∨ c.isDefault ≠ isDefault := by
        rw [← not_and_or]
        exact hc
      simp only [hc', if_true, Except.throw_eq_error, reduceCtorEq, Option.some.injEq, false_and,
        or_false, false_iff, not_and]
      rintro rfl hid hdefault
      exact hc ⟨hid, hdefault⟩

/-- Everything adding a command can do: refuse an identity already filed, or
file the command in its place, in the feature and class that its name gives,
unless the class already has a command of its short name. -/
theorem add_eq_ok_iff :
    t.add cmd = .ok t' ↔
      (∀ c ∈ t.commands, c.identity ≠ cmd.identity) ∧
        ∃ fname kname short isDefault feature cls,
          place cmd = .ok (fname, kname, short, isDefault) ∧
          t.featureFor cmd fname = .ok feature ∧
          classFor feature cmd kname isDefault = .ok cls ∧ cls.command? short = none ∧
          t' = { t with
            commands := t.commands ++ [cmd]
            features := refile (·.name)
              { feature with
                classes := refile (·.name) { cls with commands := cls.commands ++ [cmd] }
                  feature.classes }
              t.features } := by
  unfold add
  dsimp only
  cases hprev : t.commands.find? (·.identity == cmd.identity) with
  | some prev =>
    have hmem := List.mem_of_find?_eq_some hprev
    have hid : prev.identity = cmd.identity := by simpa using List.find?_some hprev
    simp only [Except.throw_eq_error, Except.error_bind, reduceCtorEq, false_iff, not_and]
    exact fun hfresh => absurd hid (hfresh prev hmem)
  | none =>
    have hfresh : ∀ c ∈ t.commands, c.identity ≠ cmd.identity := by
      simpa using List.find?_eq_none.mp hprev
    rw [and_iff_right hfresh]
    simp only [Except.bind_eq_ok]
    constructor
    · rintro ⟨⟨fname, kname, short, isDefault⟩, hplace, feature, hfeature, cls, hcls, hlast⟩
      refine ⟨fname, kname, short, isDefault, feature, cls, hplace, hfeature, hcls, ?_⟩
      split at hlast
      · simp at hlast
      · rename_i hshort
        exact ⟨by simpa using hshort, (Except.ok.inj hlast).symm⟩
    · rintro ⟨fname, kname, short, isDefault, feature, cls, hplace, hfeature, hcls, hshort, rfl⟩
      exact ⟨_, hplace, feature, hfeature, cls, hcls, by simp [hshort]⟩

end Table

end DroneProtocol
