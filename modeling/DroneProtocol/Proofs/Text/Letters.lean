import DroneProtocol.Text.Unicode

/-! # Upper-casing keeps identifier characters

Every run of the upper-case mapping sends its code points into one letter
range or holds no letter or digit; one walk over the letter table checks it.
Main statements: `isLetter_eq_inRanges`, `isUpper_isLetter` and
`toUpper_isIdentChar`. -/

namespace DroneProtocol.Unicode

def isIdentChar (c : Char) : Bool := isLetter c || isDigit c

theorem inRanges_eq_true {rs : List (Nat × Nat)} {n : Nat} :
    inRanges rs n = true ↔ ∃ q ∈ rs, q.1 ≤ n ∧ n ≤ q.2 := by
  simp [inRanges]

theorem inRanges_eq_false {rs : List (Nat × Nat)} {n : Nat} (h : ∀ q ∈ rs, n < q.1 ∨ q.2 < n) :
    inRanges rs n = false := by
  rw [← Bool.not_eq_true, inRanges_eq_true]
  rintro ⟨q, hq, hlo, hhi⟩
  have := h q hq
  omega

theorem toNat_ofNat_of_isValidChar {n : Nat} (h : n.isValidChar) : (Char.ofNat n).toNat = n := by
  have hof : Char.ofNat n = Char.ofNatAux n h := dif_pos h
  rw [hof]
  rfl

/-! ## The ASCII fast path -/

theorem letterRanges_eq :
    letterRanges = (0x41, 0x5A) :: (0x61, 0x7A) :: letterRanges.drop 2 ∧
      ∀ q ∈ letterRanges.drop 2, 0x80 ≤ q.1 := by
  decide +kernel

theorem isAlpha_ofNat : ∀ n < 0x80,
    (Char.ofNat n).isAlpha = inRanges [(0x41, 0x5A), (0x61, 0x7A)] n := by
  decide

/-- The letters that `isLetter` answers without its table are the letters of
the table. -/
theorem isLetter_eq_inRanges (c : Char) : isLetter c = inRanges letterRanges c.toNat := by
  unfold isLetter
  split
  case isTrue hc =>
    -- past the ASCII ranges every range starts above the character
    have hrest : inRanges (letterRanges.drop 2) c.toNat = false :=
      inRanges_eq_false fun q hq => .inl (by have := letterRanges_eq.2 q hq; omega)
    have hascii := isAlpha_ofNat c.toNat hc
    rw [Char.ofNat_toNat] at hascii
    rw [hascii, letterRanges_eq.1]
    simp only [inRanges, List.any_cons] at hrest ⊢
    simp [hrest]
  case isFalse => rfl

/-- Every range of the letter table holds scalar values only. -/
theorem letterRanges_valid : ∀ q ∈ letterRanges, q.2 < 0xD800 ∨ 0xE000 ≤ q.1 ∧ q.2 < 0x110000 := by
  decide +kernel

theorem isLetter_ofNat {n : Nat} (h : inRanges letterRanges n = true) : isLetter (Char.ofNat n) = true := by
  obtain ⟨q, hq, hlo, hhi⟩ := inRanges_eq_true.1 h
  have hvalid : n.isValidChar := by
    have := letterRanges_valid q hq
    simp only [Nat.isValidChar]
    omega
  rw [isLetter_eq_inRanges, toNat_ofNat_of_isValidChar hvalid]
  exact h

/-! ## Runs whose images lie in one range -/

/-- The ranges of `qs` from the first that does not end below `lo`, if that
one holds all of `lo..hi`. -/
def seekCover (lo hi : Nat) (qs : List (Nat × Nat)) : Option (List (Nat × Nat)) :=
  match qs.dropWhile (fun q => q.2 < lo) with
  | q :: rest => if q.1 ≤ lo ∧ hi ≤ q.2 then some (q :: rest) else none
  | [] => none

/-- The runs whose images no range of `qs` holds whole. A run is its first and
last code point and the image of the first. The walk over `qs` goes on from
where the last image was found and starts again from the first range only
when that fails, so runs with rising images take one pass over `qs`. -/
def uncoveredRuns (qs : List (Nat × Nat)) :
    List (Nat × Nat) → List (Nat × Nat × Nat) → List (Nat × Nat × Nat)
  | _, [] => []
  | cur, r :: rs =>
    match seekCover r.2.2 (r.2.2 + (r.2.1 - r.1)) cur with
    | some cur' => uncoveredRuns qs cur' rs
    | none =>
      match seekCover r.2.2 (r.2.2 + (r.2.1 - r.1)) qs with
      | some cur' => uncoveredRuns qs cur' rs
      | none => r :: uncoveredRuns qs cur rs

theorem seekCover_sound {lo hi : Nat} {qs rest : List (Nat × Nat)}
    (h : seekCover lo hi qs = some rest) : rest <:+ qs ∧ ∃ q ∈ qs, q.1 ≤ lo ∧ hi ≤ q.2 := by
  unfold seekCover at h
  split at h
  case h_1 q rest' hdrop =>
    split at h
    case isTrue hcover =>
      cases h
      have hsuffix : q :: rest' <:+ qs := hdrop ▸ List.dropWhile_suffix _
      exact ⟨hsuffix, q, hsuffix.mem List.mem_cons_self, hcover⟩
    case isFalse => cases h
  case h_2 => cases h

/-- A run the check does not report has its image inside one range. -/
theorem covered_of_not_mem_uncoveredRuns {qs : List (Nat × Nat)} :
    ∀ (rs : List (Nat × Nat × Nat)) (cur : List (Nat × Nat)), cur <:+ qs →
      ∀ r ∈ rs, r ∉ uncoveredRuns qs cur rs → ∃ q ∈ qs, q.1 ≤ r.2.2 ∧ r.2.2 + (r.2.1 - r.1) ≤ q.2
  | [], _, _ => by simp
  | r' :: rs, cur, hcur => by
    -- the cursor stays a suffix of the table, so what it finds is in the table
    intro r hr hnot
    simp only [uncoveredRuns] at hnot
    split at hnot
    case h_1 cur' hseek =>
      obtain ⟨hsuffix, q, hq, hcover⟩ := seekCover_sound hseek
      rcases List.mem_cons.1 hr with rfl | hrs
      · exact ⟨q, hcur.mem hq, hcover⟩
      · exact covered_of_not_mem_uncoveredRuns rs cur' (hsuffix.trans hcur) r hrs hnot
    case h_2 =>
      split at hnot
      case h_1 cur' hseek =>
        obtain ⟨hsuffix, hcover⟩ := seekCover_sound hseek
        rcases List.mem_cons.1 hr with rfl | hrs
        · exact hcover
        · exact covered_of_not_mem_uncoveredRuns rs cur' hsuffix r hrs hnot
      case h_2 =>
        -- a reported run is `r'` itself, so `r` is further on
        have hrs : r ∈ rs := (List.mem_cons.1 hr).resolve_left fun h => hnot (h ▸ List.mem_cons_self)
        exact covered_of_not_mem_uncoveredRuns rs cur hcur r hrs fun h => hnot (List.mem_cons_of_mem _ h)

theorem uncoveredRuns_upperShifts :
    uncoveredRuns letterRanges letterRanges upperShifts =
      [(0x2170, 0x217F, 0x2160), (0x24D0, 0x24E9, 0x24B6)] := by
  decide +kernel

theorem uncovered_upper_runs_clear :
    ∀ r ∈ uncoveredRuns letterRanges letterRanges upperShifts,
      ∀ q ∈ letterRanges ++ digitRanges, q.2 < r.1 ∨ r.2.1 < q.1 := by
  rw [uncoveredRuns_upperShifts]
  decide +kernel

theorem upperRanges_covered :
    uncoveredRuns letterRanges letterRanges (upperRanges.map fun q => (q.1, q.2, q.1)) = [] := by
  decide +kernel

theorem isUpper_isLetter_of_lt : ∀ n < 0x80,
    isUpper (Char.ofNat n) = true → isLetter (Char.ofNat n) = true := by
  decide

/-- Upper-case letters are letters. -/
theorem isUpper_isLetter {c : Char} (h : isUpper c = true) : isLetter c = true := by
  by_cases hc : c.toNat < 0x80
  case pos =>
    have := isUpper_isLetter_of_lt c.toNat hc
    rw [Char.ofNat_toNat] at this
    exact this h
  case neg =>
    simp only [isUpper, hc, if_false] at h
    obtain ⟨q, hq, hlo, hhi⟩ := inRanges_eq_true.1 h
    have hrun : (q.1, q.2, q.1) ∈ upperRanges.map fun q => (q.1, q.2, q.1) :=
      List.mem_map_of_mem hq
    obtain ⟨q', hq', hlo', hhi'⟩ := covered_of_not_mem_uncoveredRuns _ letterRanges
      (List.suffix_refl _) _ hrun (by rw [upperRanges_covered]; exact List.not_mem_nil)
    rw [isLetter_eq_inRanges]
    exact inRanges_eq_true.2 ⟨q', hq', by simp at hlo'; omega, by simp at hhi'; omega⟩

/-! ## Upper-casing -/

theorem toUpper_isIdentChar_of_lt : ∀ n < 0x80,
    isIdentChar (Char.ofNat n) = true → isIdentChar (toUpper (Char.ofNat n)) = true := by
  decide

theorem shift_upperShifts_isIdentChar {c : Char} (hc : 0x80 ≤ c.toNat)
    (h : isIdentChar c = true) : isIdentChar (shift upperShifts c) = true := by
  unfold shift
  split
  case h_2 => exact h
  case h_1 r hfind =>
    have hr := List.mem_of_find?_eq_some hfind
    have hin : r.1 ≤ c.toNat ∧ c.toNat ≤ r.2.1 := by simpa using List.find?_some hfind
    by_cases hu : r ∈ uncoveredRuns letterRanges letterRanges upperShifts
    case pos =>
      -- a run with no letter and no digit cannot hold `c`
      have hclear : ∀ q ∈ letterRanges ++ digitRanges, c.toNat < q.1 ∨ q.2 < c.toNat :=
        fun q hq => by have := uncovered_upper_runs_clear r hu q hq; omega
      have hletter : isLetter c = false := by
        simp only [isLetter, Nat.not_lt.2 hc, if_false]
        exact inRanges_eq_false fun q hq => hclear q (List.mem_append_left _ hq)
      have hdigit : isDigit c = false := by
        simp only [isDigit, Nat.not_lt.2 hc, if_false]
        exact inRanges_eq_false fun q hq => hclear q (List.mem_append_right _ hq)
      simp [isIdentChar, hletter, hdigit] at h
    case neg =>
      obtain ⟨q, hq, hlo, hhi⟩ :=
        covered_of_not_mem_uncoveredRuns upperShifts letterRanges (List.suffix_refl _) r hr hu
      have himage : isLetter (Char.ofNat (r.2.2 + (c.toNat - r.1))) = true :=
        isLetter_ofNat (inRanges_eq_true.2 ⟨q, hq, by omega, by omega⟩)
      simp [isIdentChar, himage]

/-- Upper-casing keeps a letter or digit a letter or digit. -/
theorem toUpper_isIdentChar {c : Char} (h : isIdentChar c = true) :
    isIdentChar (toUpper c) = true := by
  by_cases hc : c.toNat < 0x80
  case pos =>
    have := toUpper_isIdentChar_of_lt c.toNat hc
    rw [Char.ofNat_toNat] at this
    exact this h
  case neg =>
    unfold toUpper
    rw [if_neg hc]
    exact shift_upperShifts_isIdentChar (by omega) h

end DroneProtocol.Unicode
