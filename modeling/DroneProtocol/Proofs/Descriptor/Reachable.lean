import Mathlib.Data.List.Nodup
import DroneProtocol.Descriptor.Table

/-! # Reachable declarations and well-formed descriptors

`Catalog.Reaches` follows multiset references to any depth, through a graph
that may have cycles. A command is well formed when every argument it reaches
passes the checks of table validation. -/

namespace DroneProtocol

def Catalog.Names (cat : Catalog) (args : List Arg) (d : MultisetDecl) : Prop :=
  ∃ a ∈ args, a.type = .multiset ∧ ∃ r, a.multiset = some r ∧ cat.resolve? r = some d

/-- The declarations reachable from `args` through multiset arguments and the
members of the declarations met on the way. -/
inductive Catalog.Reaches (cat : Catalog) (args : List Arg) : MultisetDecl → Prop
  | named {d} : cat.Names args d → cat.Reaches args d
  | member {d m d'} : cat.Reaches args d → m ∈ d.members → cat.Names m.args d' →
      cat.Reaches args d'

theorem Catalog.Reaches.through {cat : Catalog} {args : List Arg} {d m d'}
    (hd : cat.Reaches args d) (hm : m ∈ d.members) (hd' : cat.Reaches m.args d') :
    cat.Reaches args d' := by
  induction hd' with
  | named hn => exact .member hd hm hn
  | member _ hm' hn ih => exact .member ih hm' hn

theorem Catalog.Reaches.mono {cat : Catalog} {args args' : List Arg} {d}
    (hsub : ∀ a ∈ args, a ∈ args') (hd : cat.Reaches args d) : cat.Reaches args' d := by
  induction hd with
  | named hn =>
    obtain ⟨a, ha, hrest⟩ := hn
    exact .named ⟨a, hsub a ha, hrest⟩
  | member _ hm hn ih => exact .member ih hm hn

/-- Only multiset arguments reach declarations. -/
theorem Catalog.Reaches.exists_multiset {cat : Catalog} {args : List Arg} {d}
    (hd : cat.Reaches args d) : ∃ a ∈ args, a.type = .multiset := by
  induction hd with
  | named hn =>
    obtain ⟨a, ha, htype, -⟩ := hn
    exact ⟨a, ha, htype⟩
  | member _ _ _ ih => exact ih

/-- An argument as table validation accepts it, its multiset reference
resolving to a declaration of the reference's own name and key. -/
def Arg.WellFormed (cat : Catalog) (a : Arg) : Prop :=
  match a.type with
  | .unknown _ => False
  | .enum => ∃ e, a.enumTable = some e ∧ e.check 0 = .ok ()
  | .bitfield => ∃ e, a.enumTable = some e ∧ a.base.isUnsigned ∧ e.check (a.base.size * 8) = .ok ()
  | .multiset => ∃ r d, a.multiset = some r ∧ cat.resolve? r = some d ∧ d.ref = r
  | _ => True

namespace Arg.WellFormed

variable {cat : Catalog} {a : Arg}

theorem enum (hwf : a.WellFormed cat) (ha : a.type = .enum) :
    ∃ e, a.enumTable = some e ∧ e.check 0 = .ok () := by
  rw [Arg.WellFormed, ha] at hwf
  exact hwf

theorem bitfield (hwf : a.WellFormed cat) (ha : a.type = .bitfield) :
    ∃ e, a.enumTable = some e ∧ a.base.isUnsigned ∧ e.check (a.base.size * 8) = .ok () := by
  rw [Arg.WellFormed, ha] at hwf
  exact hwf

theorem multiset (hwf : a.WellFormed cat) (ha : a.type = .multiset) :
    ∃ r d, a.multiset = some r ∧ cat.resolve? r = some d ∧ d.ref = r := by
  rw [Arg.WellFormed, ha] at hwf
  exact hwf

theorem ref_eq {r : MultisetRef} {d : MultisetDecl} (hwf : a.WellFormed cat)
    (ha : a.type = .multiset) (hr : a.multiset = some r) (hres : cat.resolve? r = some d) :
    d.ref = r := by
  obtain ⟨r', d', hr', hres', href⟩ := hwf.multiset ha
  rw [hr, Option.some.injEq] at hr'
  subst hr'
  rw [hres, Option.some.injEq] at hres'
  subst hres'
  exact href

end Arg.WellFormed

def MultisetDecl.WellFormed (cat : Catalog) (d : MultisetDecl) : Prop :=
  (d.members.map Command.identity).Nodup ∧ ∀ m ∈ d.members, ∀ a ∈ m.args, a.WellFormed cat

/-- A command whose arguments, and every declaration they reach, are well formed. -/
structure Command.WellFormedIn (cat : Catalog) (cmd : Command) : Prop where
  args : ∀ a ∈ cmd.args, a.WellFormed cat
  reached : ∀ d, cat.Reaches cmd.args d → d.WellFormed cat

theorem Catalog.Reaches.members_wellFormed {cat : Catalog} {args : List Arg} {d : MultisetDecl}
    (hd : cat.Reaches args d) (hreach : ∀ d', cat.Reaches args d' → d'.WellFormed cat) :
    ∀ m ∈ d.members,
      (∀ a ∈ m.args, a.WellFormed cat) ∧ ∀ d', cat.Reaches m.args d' → d'.WellFormed cat :=
  fun m hm => ⟨(hreach d hd).2 m hm, fun d' hd' => hreach d' (hd.through hm hd')⟩

theorem Command.WellFormedIn.of_scalar {cat : Catalog} {cmd : Command}
    (hargs : ∀ a ∈ cmd.args, a.WellFormed cat) (hscalar : ∀ a ∈ cmd.args, a.type ≠ .multiset) :
    cmd.WellFormedIn cat where
  args := hargs
  reached d hd := by
    obtain ⟨a, ha, htype⟩ := hd.exists_multiset
    exact absurd htype (hscalar a ha)

theorem Catalog.Reaches.mem {cat : Catalog} {args : List Arg} {d : MultisetDecl}
    (hd : cat.Reaches args d) : d ∈ cat := by
  cases hd with
  | named hn | member _ _ hn =>
    obtain ⟨-, -, -, r, -, hres⟩ := hn
    exact List.mem_of_find?_eq_some hres

theorem Command.WellFormedIn.of_catalog {cat : Catalog} {cmd : Command}
    (hargs : ∀ a ∈ cmd.args, a.WellFormed cat) (hcat : ∀ d ∈ cat, d.WellFormed cat) :
    cmd.WellFormedIn cat where
  args := hargs
  reached d hd := hcat d hd.mem

/-! ## Lookups by a distinct key -/

theorem List.find?_key_eq_some {α β : Type} [BEq β] [LawfulBEq β] {key : α → β} {l : List α}
    (hnd : (l.map key).Nodup) {b : β} {x : α} :
    l.find? (key · == b) = some x ↔ x ∈ l ∧ key x = b := by
  constructor
  · intro h
    exact ⟨List.mem_of_find?_eq_some h, by simpa using List.find?_some h⟩
  · rintro ⟨hx, rfl⟩
    cases hfound : l.find? (key · == key x) with
    | none => exact absurd (List.find?_eq_none.mp hfound x hx) (by simp)
    | some y =>
      have hy : key y = key x := by simpa using List.find?_some hfound
      rw [List.inj_on_of_nodup_map hnd (List.mem_of_find?_eq_some hfound) hx hy]

theorem List.find?_key_eq_none {α β : Type} [BEq β] [LawfulBEq β] {key : α → β} {l : List α}
    {b : β} : l.find? (key · == b) = none ↔ ∀ x ∈ l, key x ≠ b := by
  simp [List.find?_eq_none]

theorem lookup_eq_none_iff_not_mem_fst {α β : Type} [BEq α] [LawfulBEq α] {l : List (α × β)}
    {k : α} : l.lookup k = none ↔ k ∉ l.map Prod.fst := by
  simp only [List.lookup_eq_none_iff, bne_iff_ne, ne_eq, List.mem_map]
  constructor
  · rintro h ⟨p, hp, rfl⟩
    exact h p hp rfl
  · rintro h p hp rfl
    exact h ⟨p, hp, rfl⟩

theorem mem_of_lookup_eq_some {α β : Type} [BEq α] [LawfulBEq α] {l : List (α × β)} {k : α}
    {b : β} (h : l.lookup k = some b) : (k, b) ∈ l := by
  obtain ⟨l₁, l₂, rfl, -⟩ := List.lookup_eq_some_iff.mp h
  simp

theorem lookup_of_mem {α β : Type} [BEq α] [LawfulBEq α] {l : List (α × β)} {k : α} {b : β}
    (hnd : (l.map Prod.fst).Nodup) (hm : (k, b) ∈ l) : l.lookup k = some b := by
  induction l with
  | nil => simp at hm
  | cons p l ih =>
    obtain ⟨k', b'⟩ := p
    simp only [List.map_cons, List.nodup_cons, List.mem_map] at hnd
    rcases List.mem_cons.mp hm with h | h
    · cases h
      simp
    · have hk : k ≠ k' := by
        rintro rfl
        exact hnd.1 ⟨_, h, rfl⟩
      simp [List.lookup_cons, beq_false_of_ne hk, ih hnd.2 h]

namespace EnumTable

theorem check_go_nodup (e : EnumTable) (bits : Nat) :
    ∀ {vs : List EnumEntry} {names : List String} {values : List Int32},
      check.go e bits vs names values = .ok () →
        (vs.map (·.value)).Nodup ∧ ∀ v ∈ vs, v.value ∉ values
  | [], _, _, _ => by simp
  | v :: rest, names, values, h => by
    simp only [check.go] at h
    split at h
    · cases h
    split at h
    · cases h
    split at h
    · cases h
    rename_i hv
    split at h
    · cases h
    obtain ⟨hnd, hfresh⟩ := check_go_nodup e bits h
    have hnot : v.value ∉ values := by simpa using hv
    refine ⟨?_, ?_⟩
    · refine List.nodup_cons.mpr ⟨?_, hnd⟩
      intro hmem
      obtain ⟨w, hw, hwv⟩ := List.mem_map.mp hmem
      exact hfresh w hw (by simp [hwv])
    · intro w hw
      rcases List.mem_cons.mp hw with rfl | hw
      · exact hnot
      · exact fun hin => hfresh w hw (List.mem_cons_of_mem _ hin)

theorem check_nodup_values {e : EnumTable} {bits : Nat} (h : e.check bits = .ok ()) :
    (e.values.map (·.value)).Nodup :=
  (check_go_nodup e bits h).1

theorem byValue?_value {t : EnumTable} {x : EnumEntry} (hnd : (t.values.map (·.value)).Nodup)
    (hx : x ∈ t.values) : t.byValue? x.value = some x :=
  (List.find?_key_eq_some hnd).mpr ⟨hx, rfl⟩

end EnumTable

/-- In a declaration of distinct member identities, a member's identity finds
that member at its own slot. -/
theorem MultisetDecl.member?_identity {d : MultisetDecl} {i : Nat} {m : Command}
    (hnd : (d.members.map Command.identity).Nodup) (hi : d.members[i]? = some m) :
    d.member? m.identity = some (i, m) := by
  obtain ⟨hlt, rfl⟩ := List.getElem?_eq_some_iff.mp hi
  have hfind : d.members.zipIdx.find? (·.1.identity == d.members[i].identity) =
      some (d.members[i], i) := by
    rw [List.find?_eq_some_iff_getElem]
    refine ⟨by simp, i, by simpa using hlt, by simp, ?_⟩
    intro j hj
    have hne : d.members[j].identity ≠ d.members[i].identity := by
      intro heq
      have hji := hnd.get_inj_iff.mp
        (show (d.members.map Command.identity).get ⟨j, by simp; omega⟩ =
          (d.members.map Command.identity).get ⟨i, by simpa using hlt⟩ by simpa using heq)
      simp only [Fin.mk.injEq] at hji
      omega
    simpa using hne
  simp [MultisetDecl.member?, hfind]

theorem MultisetDecl.mem_of_member? {d : MultisetDecl} {id : Identity} {i : Nat} {m : Command}
    (h : d.member? id = some (i, m)) : m ∈ d.members := by
  simp only [MultisetDecl.member?, Option.map_eq_some_iff] at h
  obtain ⟨⟨c, j⟩, hfind, hcj⟩ := h
  simp only [Prod.mk.injEq] at hcj
  obtain ⟨rfl, rfl⟩ := hcj
  exact List.fst_mem_of_mem_zipIdx (List.mem_of_find?_eq_some hfind)

end DroneProtocol
