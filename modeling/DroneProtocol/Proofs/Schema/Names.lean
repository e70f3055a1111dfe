import DroneProtocol.Schema.Naming
import DroneProtocol.Proofs.Text.Letters
import DroneProtocol.Proofs.Bytes.Utf8

/-! # Which names make legal identifiers

Main statement: `generated_names_legal`. The identifier made from a name is
non-empty letters and digits, exported exactly when its head upper-cases to an
ASCII digit or an upper-case letter; the parameter name is a legal one exactly
when that head upper-cases into ASCII. -/

namespace DroneProtocol.Naming

open Unicode

def IsIdentifier (t : String) : Prop :=
  ∃ c cs, t.toList = c :: cs ∧ isLetter c = true ∧ ∀ d ∈ cs, isIdentChar d = true

def IsExported (t : String) : Prop :=
  IsIdentifier t ∧ ∀ c ∈ t.toList.head?, isUpper c = true

/-- A legal parameter name: UTF-8 that spells an identifier which is no
keyword and no name the generated helpers use. -/
def IsParamName (bs : List UInt8) : Prop :=
  ∃ t, Utf8.decode? bs = some t ∧ IsIdentifier t ∧ t ∉ keywords ∧ t ∉ reservedParams

def firstIdentChar (s : String) : Option Char := s.toList.find? isIdentChar

/-- The character the identifier made from a name starts with: the name's
first letter or digit upper-cased, or "X" when there is none or when it is an
ASCII digit. -/
def identHead (s : String) : Char :=
  match (firstIdentChar s).map toUpper with
  | some c => if c.isDigit then 'X' else c
  | none => 'X'

/-! ## The characters of an identifier -/

theorem isBreak_not_isIdentChar {c : Char} (h : isBreak c = true) : isIdentChar c = false := by
  simp only [isBreak, Bool.or_eq_true, decide_eq_true_eq] at h
  rcases h with ((rfl | rfl) | rfl) | rfl <;> decide

theorem drops_iff {c : Char} : (!(isLetter c || isDigit c)) = true ↔ isIdentChar c = false := by
  rw [Bool.not_eq_true']
  rfl

theorem identChars_isIdentChar :
    ∀ (upper : Bool) (cs : List Char), ∀ d ∈ identChars upper cs, isIdentChar d = true
  | _, [] => by simp [identChars]
  | upper, c :: cs => by
    intro d hd
    simp only [identChars] at hd
    split at hd
    case isTrue => exact identChars_isIdentChar true cs d hd
    case isFalse =>
      split at hd
      case isTrue => exact identChars_isIdentChar upper cs d hd
      case isFalse hkeep =>
        have hc : isIdentChar c = true := by
          rw [drops_iff, Bool.not_eq_false] at hkeep
          exact hkeep
        rcases List.mem_cons.1 hd with rfl | hd
        · split
          · exact toUpper_isIdentChar hc
          · exact hc
        · exact identChars_isIdentChar false cs d hd

/-- Breaks and dropped characters before the first letter or digit leave it
the first character, upper-cased. -/
theorem identChars_true_head? :
    ∀ cs : List Char, (identChars true cs).head? = (cs.find? isIdentChar).map toUpper
  | [] => rfl
  | c :: cs => by
    simp only [identChars]
    by_cases hb : isBreak c = true
    case pos =>
      rw [if_pos hb, List.find?_cons_of_neg (by simp [isBreak_not_isIdentChar hb]),
        identChars_true_head? cs]
    case neg =>
      rw [if_neg hb]
      by_cases hk : isIdentChar c = true
      case pos =>
        rw [if_neg (by rw [drops_iff, hk]; decide), List.find?_cons_of_pos hk]
        simp
      case neg =>
        rw [if_pos (drops_iff.2 (Bool.eq_false_iff.2 hk)), List.find?_cons_of_neg hk,
          identChars_true_head? cs]

theorem goName_toList (s : String) :
    ∃ cs, (goName s).toList = identHead s :: cs ∧ ∀ d ∈ cs, isIdentChar d = true := by
  have hhead := identChars_true_head? s.toList
  have hall := identChars_isIdentChar true s.toList
  unfold goName identHead firstIdentChar
  rw [← hhead]
  generalize identChars true s.toList = cs at hall ⊢
  cases cs with
  | nil => exact ⟨[], rfl, by simp⟩
  | cons c cs =>
    simp only [List.head?_cons]
    split
    case isTrue => exact ⟨c :: cs, by simp, hall⟩
    case isFalse => exact ⟨cs, by simp, fun d hd => hall d (List.mem_cons_of_mem _ hd)⟩

theorem firstIdentChar_isIdentChar {s : String} {c : Char} (h : firstIdentChar s = some c) :
    isIdentChar c = true :=
  List.find?_some h

theorem identHead_isIdentChar (s : String) : isIdentChar (identHead s) = true := by
  unfold identHead
  cases hfirst : firstIdentChar s with
  | none => decide
  | some c =>
    dsimp only [Option.map_some]
    split
    · decide
    · exact toUpper_isIdentChar (firstIdentChar_isIdentChar hfirst)

/-! ## Exported identifiers -/

theorem exported_goName_iff (s : String) : IsExported (goName s) ↔ isUpper (identHead s) = true := by
  obtain ⟨cs, hg, hcs⟩ := goName_toList s
  constructor
  · rintro ⟨-, hup⟩
    exact hup _ (by simp [hg])
  · intro hup
    exact ⟨⟨_, cs, hg, isUpper_isLetter hup, hcs⟩, by simp [hg, hup]⟩

theorem isUpper_identHead_iff (s : String) :
    isUpper (identHead s) = true ↔
      ∀ c ∈ firstIdentChar s, (toUpper c).isDigit = true ∨ isUpper (toUpper c) = true := by
  unfold identHead
  cases firstIdentChar s with
  | none => simpa using (by decide : isUpper 'X' = true)
  | some c =>
    dsimp only [Option.map_some]
    by_cases hd : (toUpper c).isDigit = true
    case pos => simpa [hd] using (by decide : isUpper 'X' = true)
    case neg => simp [hd]

/-! ## Parameter names -/

theorem identHead_lt_iff (s : String) :
    (identHead s).toNat < 0x80 ↔ ∀ c ∈ firstIdentChar s, (toUpper c).toNat < 0x80 := by
  unfold identHead
  cases firstIdentChar s with
  | none => simp
  | some c =>
    dsimp only [Option.map_some]
    by_cases hd : (toUpper c).isDigit = true
    case pos =>
      have := Char.isDigit_iff_toNat.1 hd
      simp only [hd, if_true, Option.mem_def, Option.some.injEq, forall_eq']
      exact ⟨fun _ => by simp at this; omega, fun _ => by decide⟩
    case neg => simp [hd]

/-- An ASCII digit is never the head: the identifier then starts with "X". -/
theorem identHead_isDigit (s : String) : (identHead s).isDigit = false := by
  unfold identHead
  split
  case h_1 c _ =>
    split
    case isTrue => decide
    case isFalse hd => exact Bool.eq_false_iff.2 hd
  case h_2 => decide

theorem identHead_isAlpha {s : String} (h : (identHead s).toNat < 0x80) :
    (identHead s).isAlpha = true := by
  have hid := identHead_isIdentChar s
  simp only [isIdentChar, isLetter, isDigit, h, if_true, identHead_isDigit, Bool.or_false] at hid
  exact hid

theorem isLetter_toLower_of_isAlpha : ∀ n < 0x80,
    (Char.ofNat n).isAlpha = true → isLetter (Char.ofNat n).toLower = true := by
  decide

theorem firstLower_of_lt {c : Char} (cs : List Char) (h : c.toNat < 0x80) :
    firstLower (String.ofList (c :: cs)) = Utf8.encode (String.ofList (c.toLower :: cs)) := by
  have hbyte : (UInt8.ofNat c.toNat).toNat = c.toNat := by
    rw [UInt8.toNat_ofNat']
    omega
  unfold firstLower
  rw [Utf8.encode_ofList, List.flatMap_cons, Utf8.utf8EncodeChar_one (by omega),
    List.singleton_append]
  dsimp only
  rw [if_pos (UInt8.lt_iff_toNat_lt.2 (by rw [hbyte]; exact h)), hbyte, Char.ofNat_toNat,
    Utf8.encode_ofList]
  simp [Utf8.encode]

theorem firstLower_of_ge {c : Char} (cs : List Char) (h : 0x80 ≤ c.toNat) :
    Utf8.decode? (firstLower (String.ofList (c :: cs))) = none := by
  obtain ⟨b, b', bs, henc, hb, hb'⟩ := Utf8.utf8EncodeChar_of_ge h
  unfold firstLower
  rw [Utf8.encode_ofList, List.flatMap_cons, henc, List.cons_append]
  dsimp only
  rw [if_neg (by rw [UInt8.lt_iff_toNat_lt]; simp only [UInt8.reduceToNat]; omega),
    Utf8.decode?_encode_append, List.cons_append]
  simp [Utf8.decode?, Utf8.scalars?_cont hb']

theorem arg_isIdentChar : "Arg".toList.all isIdentChar = true := by
  decide

theorem no_capital_in_reserved : ∀ k ∈ keywords ++ reservedParams, 'A' ∉ k.toList := by
  decide +kernel

theorem append_arg_not_reserved (t : String) :
    t ++ "Arg" ∉ keywords ∧ t ++ "Arg" ∉ reservedParams := by
  have hA : 'A' ∈ (t ++ "Arg").toList := by simp
  constructor
  · exact fun hk => no_capital_in_reserved _ (List.mem_append_left _ hk) hA
  · exact fun hr => no_capital_in_reserved _ (List.mem_append_right _ hr) hA

theorem goName_eq_ofList (s : String) :
    ∃ cs, goName s = String.ofList (identHead s :: cs) ∧ ∀ d ∈ cs, isIdentChar d = true := by
  obtain ⟨cs, hg, hcs⟩ := goName_toList s
  exact ⟨cs, by rw [← hg, String.ofList_toList], hcs⟩

/-- A head beyond ASCII leaves a parameter name that is not UTF-8. -/
theorem decode?_paramName_of_ge {s : String} (h : 0x80 ≤ (identHead s).toNat) :
    Utf8.decode? (paramName s) = none := by
  obtain ⟨cs, hgo, -⟩ := goName_eq_ofList s
  have hnone := firstLower_of_ge cs h
  simp only [paramName, hgo, hnone]

theorem paramName_legal_iff (s : String) :
    IsParamName (paramName s) ↔ (identHead s).toNat < 0x80 := by
  obtain ⟨cs, hgo, hcs⟩ := goName_eq_ofList s
  by_cases h : (identHead s).toNat < 0x80
  case neg =>
    simp [IsParamName, decode?_paramName_of_ge (Nat.not_lt.1 h), h]
  case pos =>
    simp only [h, iff_true]
    -- the lowered head is an ASCII letter, so the name is text
    have hlow : isLetter (identHead s).toLower = true := by
      have := isLetter_toLower_of_isAlpha _ h
      rw [Char.ofNat_toNat] at this
      exact this (identHead_isAlpha h)
    have hid : IsIdentifier (String.ofList ((identHead s).toLower :: cs)) :=
      ⟨_, cs, by simp, hlow, hcs⟩
    simp only [paramName, hgo, firstLower_of_lt cs h, Utf8.decode?_encode]
    split
    case isTrue =>
      refine ⟨_, Utf8.decode?_encode _, ?_, append_arg_not_reserved _⟩
      refine ⟨_, cs ++ "Arg".toList, by simp, hlow, ?_⟩
      intro d hd
      rcases List.mem_append.1 hd with hd | hd
      · exact hcs d hd
      · exact List.all_eq_true.1 arg_isIdentChar d hd
    case isFalse hnot =>
      simp only [Bool.or_eq_true, not_or, List.contains_iff_mem] at hnot
      exact ⟨_, Utf8.decode?_encode _, hid, hnot.1, hnot.2⟩

/-- The identifier made from a name is non-empty and made of letters and
digits; it is exported exactly when the name's first letter or digit
upper-cases to an ASCII digit or an upper-case letter; and the parameter name
spells an identifier that is no keyword and no name of the generated helpers
exactly when that character upper-cases into ASCII. -/
theorem generated_names_legal (s : String) :
    ((goName s).toList ≠ [] ∧ ∀ d ∈ (goName s).toList, isIdentChar d = true) ∧
    (IsExported (goName s) ↔
      ∀ c ∈ firstIdentChar s, (toUpper c).isDigit = true ∨ isUpper (toUpper c) = true) ∧
    (IsParamName (paramName s) ↔ ∀ c ∈ firstIdentChar s, (toUpper c).toNat < 0x80) := by
  obtain ⟨cs, hg, hcs⟩ := goName_toList s
  refine ⟨⟨by simp [hg], ?_⟩, (exported_goName_iff s).trans (isUpper_identHead_iff s),
    (paramName_legal_iff s).trans (identHead_lt_iff s)⟩
  rw [hg]
  intro d hd
  rcases List.mem_cons.1 hd with rfl | hd
  · exact identHead_isIdentChar s
  · exact hcs d hd

/-- An Arabic-Indic digit three makes an identifier that starts with that
digit, and a parameter name that is not UTF-8. -/
theorem arabic_digit_names :
    goName "٣" = "٣" ∧ ¬ IsExported (goName "٣") ∧ Utf8.decode? (paramName "٣") = none := by
  have hhead : identHead "٣" = '٣' := by decide +kernel
  refine ⟨by decide +kernel, fun h => ?_, decode?_paramName_of_ge (by rw [hhead]; decide)⟩
  have hup := (exported_goName_iff "٣").1 h
  rw [hhead] at hup
  exact absurd hup (by decide +kernel)

end DroneProtocol.Naming
