import Mathlib.Data.List.Induction
import DroneProtocol.Proofs.Wire.Aggregation
import DroneProtocol.Proofs.Wire.Failures

/-! # Editing a multiset value

`set` checks a member's arguments before it writes and leaves the value as it
was when it refuses; `clear` empties a slot. Main statement:
`edits_write_finite_map`, each slot holds what the last edit that wrote it
set. -/

namespace DroneProtocol

namespace Slots

/-- An edit of a multiset value, as a caller makes it. -/
inductive Edit where
  | set (cmd : Command) (args : List Value)
  | clear (cmd : Command)

namespace Edit

def cmd : Edit → Command
  | set c _ => c
  | clear c => c

def written : Edit → Option (List Value)
  | set _ args => some args
  | clear _ => none

/-- Whether member `c` takes an edit: a clear always, a set when there are as
many arguments as `c` has and the default codec encodes them for `c`. -/
def accepts (c : Command) : Edit → Bool
  | set _ args => args.length == c.args.length && (({} : CodecOptions).encodeArgs c args).isOk
  | clear _ => true

/-- Whether an edit writes the slot of member `c`: it addresses the identity
of `c`, and `c` takes it. -/
def writes (c : Command) (e : Edit) : Bool :=
  e.cmd.identity == c.identity && e.accepts c

def apply (m : MultisetValue) : Edit → MultisetValue
  | set cmd args =>
    match m.set cmd args with
    | .ok m' => m'
    | .error _ => m
  | clear cmd => m.clear cmd

end Edit

/-- The value that a run of edits leaves, from the empty value of `d`. -/
def edit (d : MultisetDecl) (es : List Edit) : MultisetValue :=
  es.foldl Edit.apply (empty d)

/-- What the edits `es` leave in the slot of member `c`: what the last edit
that writes the slot wrote, or nothing when no edit writes it. -/
def lastWrite (c : Command) (es : List Edit) : Option (List Value) :=
  ((es.filter (·.writes c)).getLast?).bind Edit.written

/-! ## One edit -/

variable {m : MultisetValue} {cmd : Command} {args : List Value} {i : Nat} {c : Command}

theorem set_of_not_member (h : m.decl.member? cmd.identity = none) :
    m.set cmd args = .error (.unmatched m.decl.name cmd.identity) := by
  simp [Slots.set, h]

theorem set_of_length_ne (h : m.decl.member? cmd.identity = some (i, c))
    (hlen : args.length ≠ c.args.length) :
    m.set cmd args = .error (.memberArgCount c.name c.args.length args.length) := by
  simp [Slots.set, h, hlen]

theorem set_of_length_eq (h : m.decl.member? cmd.identity = some (i, c))
    (hlen : args.length = c.args.length) :
    m.set cmd args = (({} : CodecOptions).encodeArgs c args).map
      fun _ => { m with slots := m.slots.set i (some args) } := by
  simp only [Slots.set, h, hlen, ne_eq, not_true_eq_false, if_false]
  cases ({} : CodecOptions).encodeArgs c args <;> rfl

theorem set_eq_ok_iff {m' : MultisetValue} (h : m.decl.member? cmd.identity = some (i, c)) :
    m.set cmd args = .ok m' ↔
      (Edit.set cmd args).accepts c ∧ m' = { m with slots := m.slots.set i (some args) } := by
  by_cases hlen : args.length = c.args.length
  · rw [set_of_length_eq h hlen]
    cases hp : ({} : CodecOptions).encodeArgs c args <;>
      simp [Except.map, Edit.accepts, hlen, hp, Except.isOk, Except.toBool, eq_comm]
  · simp [set_of_length_ne h hlen, Edit.accepts, hlen]

theorem clear_of_member (h : m.decl.member? cmd.identity = some (i, c)) :
    m.clear cmd = { m with slots := m.slots.set i none } := by
  simp [Slots.clear, h]

theorem clear_of_not_member (h : m.decl.member? cmd.identity = none) : m.clear cmd = m := by
  simp [Slots.clear, h]

namespace Edit

theorem apply_of_member {e : Edit} (h : m.decl.member? e.cmd.identity = some (i, c)) :
    apply m e = if e.accepts c then { m with slots := m.slots.set i e.written } else m := by
  cases e with
  | set cmd args =>
    replace h : m.decl.member? cmd.identity = some (i, c) := h
    cases hs : m.set cmd args with
    | ok m' =>
      obtain ⟨hacc, rfl⟩ := (set_eq_ok_iff h).mp hs
      simp [apply, hs, hacc, written]
    | error e =>
      -- a refused set is one the member does not take
      have hacc : (set cmd args).accepts c = false := by
        by_contra hacc
        have := (set_eq_ok_iff h).mpr ⟨by simpa using hacc, rfl⟩
        rw [hs] at this
        cases this
      simp [apply, hs, hacc]
  | clear cmd =>
    have hc : m.clear cmd = _ := clear_of_member h
    simp [apply, hc, accepts, written]

theorem apply_of_not_member {e : Edit} (h : m.decl.member? e.cmd.identity = none) :
    apply m e = m := by
  cases e with
  | set cmd args =>
    have hs : m.set cmd args = _ := set_of_not_member h
    simp [apply, hs]
  | clear cmd => exact clear_of_not_member h

@[simp] theorem apply_decl (m : MultisetValue) (e : Edit) : (apply m e).decl = m.decl := by
  cases h : m.decl.member? e.cmd.identity with
  | none => rw [apply_of_not_member h]
  | some ic =>
    rw [apply_of_member h]
    split <;> rfl

end Edit

/-! ## A run of edits

A run is followed edit by edit: the slots of a value of `d` are always the
map of some function over the members, and an edit replaces that function by
its own write on the members it writes. -/

section Run

variable {d : MultisetDecl}

/-- In a list of distinct elements, writing at the position of `x` changes
what `x` maps to and nothing else. -/
theorem map_set_of_nodup {α β : Type} [DecidableEq α] {l : List α} (hnd : l.Nodup) {i : Nat} {x : α}
    (hi : l[i]? = some x) (g : α → β) (w : β) :
    (l.map g).set i w = l.map fun y => if y = x then w else g y := by
  obtain ⟨hlt, rfl⟩ := List.getElem?_eq_some_iff.mp hi
  apply List.ext_getElem?
  intro j
  rw [List.getElem?_set, List.getElem?_map, List.getElem?_map, List.length_map]
  by_cases hij : i = j
  · subst hij
    simp [hlt]
  · rw [if_neg hij]
    cases hj : l[j]? with
    | none => rfl
    | some y =>
      obtain ⟨hjlt, rfl⟩ := List.getElem?_eq_some_iff.mp hj
      have hne : l[j] ≠ l[i] := fun heq => hij ((hnd.getElem_inj_iff.mp heq).symm)
      simp [hne]

/-- An edit of a value whose slots map `g` over the members writes what it
writes in the slots it writes and keeps the others. -/
theorem apply_slots (hnd : (d.members.map Command.identity).Nodup) {m : MultisetValue}
    (hd : m.decl = d) {g : Command → Option (List Value)} (hs : m.slots = d.members.map g)
    (e : Edit) :
    (Edit.apply m e).slots = d.members.map fun c => if e.writes c then e.written else g c := by
  cases h : m.decl.member? e.cmd.identity with
  | none =>
    rw [Edit.apply_of_not_member h, hs]
    apply List.map_congr_left
    intro c hc
    -- no member has the identity the edit addresses
    have hne := MultisetDecl.member?_eq_none_iff.mp h c (hd ▸ hc)
    simp [Edit.writes, Ne.symm hne]
  | some ic =>
    obtain ⟨i, c₀⟩ := ic
    obtain ⟨hi, hid⟩ := MultisetDecl.member?_eq_some h
    rw [hd] at hi
    -- the only member with the edit's identity is the one the look-up finds
    have hsame : ∀ c ∈ d.members, e.cmd.identity = c.identity ↔ c = c₀ := by
      intro c hc
      constructor
      · intro hc₀
        exact List.inj_on_of_nodup_map hnd hc (List.mem_of_getElem? hi) (hc₀.symm.trans hid.symm)
      · rintro rfl
        exact hid.symm
    rw [Edit.apply_of_member h]
    split
    case isTrue hacc =>
      rw [hs, map_set_of_nodup (List.Nodup.of_map _ hnd) hi]
      apply List.map_congr_left
      intro c hc
      by_cases hc₀ : c = c₀
      · subst hc₀
        simp [Edit.writes, hacc, hid.symm]
      · simp [Edit.writes, hc₀, (hsame c hc).not.mpr hc₀]
    case isFalse hacc =>
      rw [hs]
      apply List.map_congr_left
      intro c hc
      by_cases hc₀ : c = c₀
      · subst hc₀
        simp [Edit.writes, hacc, hid.symm]
      · simp [Edit.writes, (hsame c hc).not.mpr hc₀]

theorem lastWrite_nil (c : Command) : lastWrite c [] = none := rfl

theorem lastWrite_concat (c : Command) (es : List Edit) (e : Edit) :
    lastWrite c (es ++ [e]) = if e.writes c then e.written else lastWrite c es := by
  unfold lastWrite
  rw [List.filter_append, List.getLast?_append]
  by_cases h : e.writes c <;> simp [h]

theorem edit_concat (es : List Edit) (e : Edit) :
    edit d (es ++ [e]) = Edit.apply (edit d es) e :=
  List.foldl_concat _ _ e es

@[simp] theorem edit_decl (es : List Edit) : (edit d es).decl = d := by
  induction es using List.reverseRecOn with
  | nil => rfl
  | append_singleton es e ih => rw [edit_concat, Edit.apply_decl, ih]

theorem edit_slots (hnd : (d.members.map Command.identity).Nodup) (es : List Edit) :
    (edit d es).slots = d.members.map (lastWrite · es) := by
  induction es using List.reverseRecOn with
  | nil => simp [edit, empty, lastWrite_nil]
  | append_singleton es e ih =>
    rw [edit_concat, apply_slots hnd (edit_decl es) ih]
    simp only [lastWrite_concat]

end Run

/-! ## Reading the slots -/

section Read

variable {d : MultisetDecl} {m : MultisetValue} {f : Command → Option (List Value)}

theorem get?_of_slots (hnd : (d.members.map Command.identity).Nodup) (hd : m.decl = d)
    (hs : m.slots = d.members.map f) {cmd c : Command} (hc : c ∈ d.members)
    (hid : c.identity = cmd.identity) : m.get? cmd = some (f c) := by
  obtain ⟨j, hj⟩ := List.mem_iff_getElem?.mp hc
  have hm : m.decl.member? cmd.identity = some (j, c) := by
    rw [← hid, hd]
    exact MultisetDecl.member?_identity hnd hj
  simp [get?, hm, hs, hj]

theorem count_of_slots (hs : m.slots = d.members.map f) :
    m.count = (d.members.filter fun c => (f c).isSome).length := by
  rw [count, hs, List.filter_map, List.length_map]
  rfl

theorem messages_of_slots (hd : m.decl = d) (hs : m.slots = d.members.map f) :
    m.messages = d.members.filterMap fun c => (f c).map (c, ·) := by
  rw [messages, hs, hd, ← List.map_prod_left_eq_zip, List.filterMap_map]
  rfl

end Read

/-! ## The map a run of edits writes -/

/-- The value `m` holds, member by member, what the edits `es` last wrote into
the slots of `d`: read through any command with the member's identity, counted,
and listed as messages in member order. -/
structure Written (d : MultisetDecl) (es : List Edit) (m : MultisetValue) : Prop where
  decl : m.decl = d
  slots : m.slots = d.members.map (lastWrite · es)
  get : ∀ cmd : Command, ∀ c ∈ d.members, c.identity = cmd.identity →
    m.get? cmd = some (lastWrite c es)
  count : m.count = (d.members.filter fun c => (lastWrite c es).isSome).length
  messages : m.messages = d.members.filterMap fun c => (lastWrite c es).map (c, ·)

/-- How `set` and `clear` answer on the value `m` of `d`, for every command
and arguments: a command that is no member is refused by `set` and ignored by
`clear`; a member refuses a wrong number of arguments, naming itself; and
otherwise a set fails exactly when the default codec cannot encode the
arguments for the member, with the codec's own failure for the member; so a
set succeeds exactly when it writes the member's slot. -/
structure Guarded (d : MultisetDecl) (m : MultisetValue) : Prop where
  unmatched : ∀ (cmd : Command) (args : List Value),
    (∀ c ∈ d.members, c.identity ≠ cmd.identity) →
    m.set cmd args = .error (.unmatched d.name cmd.identity) ∧ m.clear cmd = m
  arg_count : ∀ (cmd : Command) (args : List Value), ∀ c ∈ d.members,
    c.identity = cmd.identity → args.length ≠ c.args.length →
    m.set cmd args = .error (.memberArgCount c.name c.args.length args.length)
  encode : ∀ (cmd : Command) (args : List Value) (e : WireError), ∀ c ∈ d.members,
    c.identity = cmd.identity → args.length = c.args.length →
    (m.set cmd args = .error e ↔ ({} : CodecOptions).encodeArgs c args = .error e)
  encode_error : ∀ (cmd : Command) (args : List Value) (e : WireError), ∀ c ∈ d.members,
    c.identity = cmd.identity → args.length = c.args.length → m.set cmd args = .error e →
    ∃ (i : Int) (a : String) (cause : WireError), e = .encode c.name i a cause
  succeeds : ∀ (cmd : Command) (args : List Value), ∀ c ∈ d.members,
    c.identity = cmd.identity → ((∃ m', m.set cmd args = .ok m') ↔ (Edit.set cmd args).writes c)

theorem encodeArgs_error_names {o : CodecOptions} {c : Command} {args : List Value}
    {e : WireError} (h : o.encodeArgs c args = .error e) :
    ∃ (i : Int) (a : String) (cause : WireError), e = .encode c.name i a cause := by
  rcases encodeArgs_eq_error_iff.mp h with ⟨-, rfl⟩ | ⟨-, i, a, cause, -, rfl⟩ | ⟨-, bs, -, -, -, rfl⟩
  · exact ⟨_, _, _, rfl⟩
  · exact ⟨_, _, _, rfl⟩
  · exact ⟨_, _, _, rfl⟩

/-- On a declaration of distinct member identities, `set` and `clear` are
guarded whatever the slots hold. -/
theorem guarded (hnd : (m.decl.members.map Command.identity).Nodup) : Guarded m.decl m := by
  -- a member's identity finds that member
  have hfind : ∀ cmd : Command, ∀ c ∈ m.decl.members, c.identity = cmd.identity →
      ∃ j, m.decl.member? cmd.identity = some (j, c) := by
    intro cmd c hc hid
    obtain ⟨j, hj⟩ := List.mem_iff_getElem?.mp hc
    exact ⟨j, hid ▸ MultisetDecl.member?_identity hnd hj⟩
  have hencode : ∀ (cmd : Command) (args : List Value) (e : WireError), ∀ c ∈ m.decl.members,
      c.identity = cmd.identity → args.length = c.args.length →
      (m.set cmd args = .error e ↔ ({} : CodecOptions).encodeArgs c args = .error e) := by
    intro cmd args e c hc hid hlen
    obtain ⟨j, hj⟩ := hfind cmd c hc hid
    rw [set_of_length_eq hj hlen]
    cases ({} : CodecOptions).encodeArgs c args <;> simp [Except.map]
  refine ⟨fun cmd args hnone => ?_, fun cmd args c hc hid hlen => ?_, hencode,
    fun cmd args e c hc hid hlen he => encodeArgs_error_names ((hencode cmd args e c hc hid hlen).mp he),
    fun cmd args c hc hid => ?_⟩
  · have h := MultisetDecl.member?_eq_none_iff.mpr fun c hc hid => hnone c hc hid
    exact ⟨set_of_not_member h, clear_of_not_member h⟩
  · obtain ⟨j, hj⟩ := hfind cmd c hc hid
    exact set_of_length_ne hj hlen
  · obtain ⟨j, hj⟩ := hfind cmd c hc hid
    simp only [set_eq_ok_iff hj, exists_eq_right, Edit.writes, Edit.cmd, hid, beq_self_eq_true,
      Bool.true_and]

/-- A multiset value edited from empty is a finite map from the members of a
declaration of distinct identities to argument lists: each member holds what
the last edit that wrote its slot wrote, and every further `set` and `clear`
is guarded. -/
theorem edits_write_finite_map (d : MultisetDecl) (hnd : (d.members.map Command.identity).Nodup)
    (es : List Edit) : Written d es (edit d es) ∧ Guarded d (edit d es) := by
  have hs := edit_slots hnd es
  refine ⟨⟨edit_decl es, hs, fun cmd c hc hid => get?_of_slots hnd (edit_decl es) hs hc hid,
    count_of_slots hs, messages_of_slots (edit_decl es) hs⟩, ?_⟩
  have hg : Guarded (edit d es).decl (edit d es) := guarded (by rw [edit_decl]; exact hnd)
  rwa [edit_decl] at hg

def countSetting : Command :=
  { name := "test.Settings.A", feature := 7, cls := 2, id := 0, args := [⟨"x", .i32, none, .i8, none⟩] }

def labelSetting : Command :=
  { name := "test.Settings.B", feature := 7, cls := 2, id := 1,
    args := [⟨"y", .string, none, .i8, none⟩] }

def mixedSettings : MultisetDecl := ⟨"settings", 0, [countSetting, labelSetting]⟩

/-- Text kept, an integer refused for the text, an integer set, then the text
cleared. -/
theorem edits_write_finite_map_settings :
    (mixedSettings.members.map Command.identity).Nodup ∧
      Written mixedSettings [.set labelSetting [.ofString "kept"], .set labelSetting [.i32 42],
          .set countSetting [.i32 3], .clear labelSetting]
        (edit mixedSettings [.set labelSetting [.ofString "kept"], .set labelSetting [.i32 42],
          .set countSetting [.i32 3], .clear labelSetting]) ∧
      Guarded mixedSettings (edit mixedSettings [.set labelSetting [.ofString "kept"],
        .set labelSetting [.i32 42], .set countSetting [.i32 3], .clear labelSetting]) :=
  ⟨by decide, edits_write_finite_map mixedSettings (by decide) _⟩

end Slots

end DroneProtocol
