import Mathlib.Data.String.Basic
import DroneProtocol.Descriptor.Command

/-! # Full names and their paths

A name joined with dots from components without a dot of their own splits
back into exactly those components (`path_of_join`, `path_of_join₃`). -/

namespace DroneProtocol

open String

theorem dot_get : Pos.Raw.get "." 0 = '.' := by decide

theorem dot_next : Pos.Raw.next "." 0 = ⟨1⟩ := by decide

theorem dot_atEnd : Pos.Raw.atEnd "." ⟨1⟩ = true := by decide

theorem dot_utf8Size : '.'.utf8Size = 1 := by decide

/-- The loop of `splitOn "."` over a string `l ++ m ++ r`, standing after `l`
with the piece `m` read so far, splits `m ++ r` at its dots. -/
theorem splitOnAux_dot (r : List Char) : ∀ (l m : List Char) (acc : List String), '.' ∉ m →
    splitOnAux (ofList (l ++ m ++ r)) "." ⟨utf8Len l⟩ ⟨utf8Len l + utf8Len m⟩ 0 acc =
      acc.reverse ++ ((m ++ r).splitOn '.').map ofList := by
  -- the loop reads `r` one character at a time
  induction r with
  | nil =>
    intro l m acc hm
    unfold splitOnAux
    have hend : Pos.Raw.atEnd (ofList (l ++ m ++ [])) ⟨utf8Len l + utf8Len m⟩ = true := by
      rw [← utf8Len_append, List.append_assoc]
      simpa using (atEnd_of_valid (l ++ m) []).2 rfl
    rw [if_pos hend, extract_of_valid l m []]
    simp [List.splitOn_eq_singleton hm]
  | cons c r ih =>
    intro l m acc hm
    unfold splitOnAux
    have hnot : ¬ Pos.Raw.atEnd (ofList (l ++ m ++ c :: r)) ⟨utf8Len l + utf8Len m⟩ = true := by
      rw [← utf8Len_append, List.append_assoc]
      simpa using mt (atEnd_of_valid (l ++ m) (c :: r)).1 (List.cons_ne_nil c r)
    have hget : Pos.Raw.get (ofList (l ++ m ++ c :: r)) ⟨utf8Len l + utf8Len m⟩ = c := by
      rw [← utf8Len_append]
      simpa using get_of_valid (l ++ m) (c :: r)
    have hnext : Pos.Raw.next (ofList (l ++ m ++ c :: r)) ⟨utf8Len l + utf8Len m⟩ =
        ⟨utf8Len l + utf8Len m + c.utf8Size⟩ := by
      rw [← utf8Len_append]
      exact next_of_valid (l ++ m) c r
    rw [if_neg hnot, hget, dot_get]
    by_cases hc : c = '.'
    case pos =>
      -- a dot closes the piece `m` and starts an empty one after it
      subst hc
      simp only [beq_self_eq_true, if_true, hnext, dot_next, dot_atEnd]
      have hpos : (⟨utf8Len l + utf8Len m + Char.utf8Size '.'⟩ : Pos.Raw).unoffsetBy ⟨1⟩ =
          ⟨utf8Len l + utf8Len m⟩ := by
        simp [Pos.Raw.unoffsetBy, dot_utf8Size]
      rw [hpos, extract_of_valid l m ('.' :: r)]
      have := ih (l ++ m ++ ['.']) [] (ofList m :: acc) (by simp)
      simp only [List.append_nil, utf8Len_append, utf8Len_cons, utf8Len_nil, Nat.add_zero,
        List.append_assoc, List.singleton_append] at this
      simp only [List.append_assoc] at hm ⊢
      rw [Nat.zero_add, ← Nat.add_assoc] at this
      rw [this, List.splitOn_append_cons_self_of_not_mem hm r]
      simp
    case neg =>
      -- any other character joins the piece
      have hne : (c == '.') = false := beq_eq_false_iff_ne.2 hc
      simp only [hne, Bool.false_eq_true, if_false, Pos.Raw.unoffsetBy_zero, hnext]
      have := ih l (m ++ [c]) acc (by simpa using ⟨hm, Ne.symm hc⟩)
      simp only [utf8Len_append, utf8Len_cons, utf8Len_nil, Nat.zero_add, List.append_assoc,
        List.singleton_append] at this
      rw [← Nat.add_assoc] at this
      simp only [List.append_assoc]
      exact this

/-- Splitting a string at `"."` splits its characters at `'.'`. -/
theorem splitOn_dot (s : String) : s.splitOn "." = (s.toList.splitOn '.').map ofList := by
  have h := splitOnAux_dot s.toList [] [] [] (List.not_mem_nil)
  simp only [List.nil_append, ofList_toList, utf8Len_nil, Nat.add_zero, List.reverse_nil] at h
  exact h

theorem splitOn_dot_of_undotted {s : String} (hs : '.' ∉ s.toList) : s.splitOn "." = [s] := by
  rw [splitOn_dot, List.splitOn_eq_singleton hs]
  simp

theorem splitOn_dot_join {f s : String} (hf : '.' ∉ f.toList) :
    (f ++ "." ++ s).splitOn "." = f :: s.splitOn "." := by
  have hjoin : (f ++ "." ++ s).toList = f.toList ++ '.' :: s.toList := by
    simp [String.toList_append]
  rw [splitOn_dot, splitOn_dot, hjoin, List.splitOn_append_cons_self_of_not_mem hf]
  simp

theorem join_dot_inj {f g s t : String} (hf : '.' ∉ f.toList) (hg : '.' ∉ g.toList)
    (hs : '.' ∉ s.toList) (ht : '.' ∉ t.toList) (h : f ++ "." ++ s = g ++ "." ++ t) :
    f = g ∧ s = t := by
  have hsplit := congrArg (·.splitOn ".") h
  simp only [splitOn_dot_join hf, splitOn_dot_join hg, splitOn_dot_of_undotted hs,
    splitOn_dot_of_undotted ht, List.cons.injEq, and_true] at hsplit
  exact hsplit

namespace Command

variable {c : Command} {f k n : String}

/-- A name of two undotted components is a command of the default class. -/
theorem path_of_join (hf : '.' ∉ f.toList) (hn : '.' ∉ n.toList) (h : c.name = f ++ "." ++ n) :
    c.path = (f, defaultClassName, n) := by
  have hsplit : c.name.splitOn "." = [f, n] := by
    rw [h, splitOn_dot_join hf, splitOn_dot_of_undotted hn]
  simp [path, hsplit]

/-- A name of three undotted components is a command of the class it names. -/
theorem path_of_join₃ (hf : '.' ∉ f.toList) (hk : '.' ∉ k.toList) (hn : '.' ∉ n.toList)
    (h : c.name = f ++ "." ++ k ++ "." ++ n) : c.path = (f, k, n) := by
  have hassoc : f ++ "." ++ k ++ "." ++ n = f ++ "." ++ (k ++ "." ++ n) := by
    simp only [String.append_assoc]
  have hsplit : c.name.splitOn "." = [f, k, n] := by
    rw [h, hassoc, splitOn_dot_join hf, splitOn_dot_join hk, splitOn_dot_of_undotted hn]
  simp [path, hsplit]

end Command

end DroneProtocol
