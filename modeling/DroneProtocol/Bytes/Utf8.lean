/-! # UTF-8

Well-formed UTF-8 has shortest forms only, no surrogate halves and nothing
above U+10FFFF. `step?` reads one scalar value off the front of a byte string,
`valid` accepts what `step?` reads to the end, and `chars` reads leniently,
one U+FFFD for each byte that starts no scalar value. -/

namespace DroneProtocol.Utf8

def isCont (b : UInt8) : Bool := 0x80 ≤ b && b ≤ 0xBF

def low (b : UInt8) : Nat := b.toNat % 64

/-- The scalar value at the front of a byte string and the shorter rest, or
`none` when the front is no shortest-form encoding of a scalar value. -/
def step? : (bs : List UInt8) → Option (Nat × {r : List UInt8 // r.length < bs.length})
  | [] => none
  | b :: rest =>
    if b < 0x80 then some (b.toNat, ⟨rest, by simp only [List.length_cons]; omega⟩)
    else if 0xC2 ≤ b && b ≤ 0xDF then
      match rest with
      | c :: r =>
        if isCont c then some ((b.toNat % 32) * 64 + low c, ⟨r, by simp only [List.length_cons]; omega⟩) else none
      | [] => none
    else if 0xE0 ≤ b && b ≤ 0xEF then
      match rest with
      | c1 :: c2 :: r =>
        let lo : UInt8 := if b = 0xE0 then 0xA0 else 0x80
        let hi : UInt8 := if b = 0xED then 0x9F else 0xBF
        if lo ≤ c1 && c1 ≤ hi && isCont c2 then
          some ((b.toNat % 16) * 4096 + low c1 * 64 + low c2, ⟨r, by simp only [List.length_cons]; omega⟩)
        else none
      | _ => none
    else if 0xF0 ≤ b && b ≤ 0xF4 then
      match rest with
      | c1 :: c2 :: c3 :: r =>
        let lo : UInt8 := if b = 0xF0 then 0x90 else 0x80
        let hi : UInt8 := if b = 0xF4 then 0x8F else 0xBF
        if lo ≤ c1 && c1 ≤ hi && isCont c2 && isCont c3 then
          some ((b.toNat % 8) * 262144 + low c1 * 4096 + low c2 * 64 + low c3,
            ⟨r, by simp only [List.length_cons]; omega⟩)
        else none
      | _ => none
    else none

def scalars? (bs : List UInt8) : Option (List Nat) :=
  if bs.isEmpty then some []
  else
    match step? bs with
    | some (v, ⟨rest, _⟩) => (scalars? rest).map (v :: ·)
    | none => none
termination_by bs.length

/-- Whether a byte string is well-formed UTF-8. -/
def valid (bs : List UInt8) : Bool := (scalars? bs).isSome

def encode (s : String) : List UInt8 := s.toList.flatMap String.utf8EncodeChar

def decode? (bs : List UInt8) : Option String :=
  (scalars? bs).map fun vs => String.ofList (vs.map Char.ofNat)

def replacement : Char := Char.ofNat 0xFFFD

/-- Characters of a byte string read leniently: each byte that starts no
well-formed scalar value reads as one replacement character. -/
def chars (bs : List UInt8) : List Char :=
  match bs with
  | [] => []
  | b :: rest =>
    match step? (b :: rest) with
    | some (v, ⟨r, _⟩) => Char.ofNat v :: chars r
    | none => replacement :: chars rest
termination_by bs.length
decreasing_by
  all_goals
    try simp only [List.length_cons] at *
    omega

end DroneProtocol.Utf8
