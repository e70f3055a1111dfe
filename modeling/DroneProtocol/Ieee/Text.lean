import DroneProtocol.Ieee.Shortest

/-! # Decimal text of binary values

`shortestText` gives the fewest significant digits that read back, `fixedText`
the value rounded to six places; `parse?` reads a decimal or hexadecimal
numeral, `inf`, `infinity` or `nan` and rounds it straight to the format. -/

namespace DroneProtocol.Ieee

def zeros (n : Nat) : String := String.ofList (List.replicate n '0')

def digitText (n : Nat) : String := String.ofList (Nat.toDigits 10 n)

def padded (w n : Nat) : String :=
  let s := digitText n
  zeros (w - s.length) ++ s

/-- The text of a shortest decimal in the positional or exponent form. -/
def Decimal.text (d : Decimal) : String :=
  let ds := Nat.toDigits 10 d.digits
  let nd := ds.length
  let dp : Int := nd + d.exp
  let e := dp - 1
  if e < -4 ∨ 6 ≤ e then
    let mant := match ds with
      | [] => "0"
      | [c] => String.singleton c
      | c :: rest => String.singleton c ++ "." ++ String.ofList rest
    let sign := if e < 0 then "-" else "+"
    mant ++ "e" ++ sign ++ padded 2 e.natAbs
  else if dp ≤ 0 then "0." ++ zeros (-dp).toNat ++ String.ofList ds
  else if nd ≤ dp.toNat then String.ofList ds ++ zeros (dp.toNat - nd)
  else String.ofList (ds.take dp.toNat) ++ "." ++ String.ofList (ds.drop dp.toNat)

namespace Format

/-- The fewest-digit text of a pattern. -/
def shortestText (f : Format) (bits : Nat) : String :=
  match f.classify bits with
  | .nan => "NaN"
  | .infinite neg => if neg then "-Inf" else "+Inf"
  | .finite neg m q =>
    let sign := if neg then "-" else ""
    if m = 0 then sign ++ "0"
    else sign ++ (shortest m q (f.narrowBelow bits)).text

/-- The exact value of a pattern rounded to `places` decimals, a tie to the
even digit. -/
def fixedText (f : Format) (places : Nat) (bits : Nat) : String :=
  match f.classify bits with
  | .nan => "NaN"
  | .infinite neg => if neg then "-Inf" else "+Inf"
  | .finite neg m q =>
    let sign := if neg then "-" else ""
    let scaled :=
      if 0 ≤ q then m * Nat.pow 2 q.toNat * Nat.pow 10 places
      else
        let t := (-q).toNat
        let v := m * Nat.pow 5 t
        if t ≤ places then v * Nat.pow 10 (places - t) else roundDiv v (Nat.pow 10 (t - places))
    let whole := digitText (scaled / Nat.pow 10 places)
    if places = 0 then sign ++ whole
    else sign ++ whole ++ "." ++ padded places (scaled % Nat.pow 10 places)

end Format

/-- What a floating-point numeral denotes, before rounding: a decimal
`digits · 10 ^ exp`, a binary `mant · 2 ^ exp`, an infinity or NaN. -/
inductive Reading where
  | decimal (neg : Bool) (digits : Nat) (exp : Int)
  | binary (neg : Bool) (mant : Nat) (exp : Int)
  | infinity (neg : Bool)
  | nan
  deriving DecidableEq, Repr

def digitIn (base : Nat) (c : Char) : Option Nat :=
  if c.isDigit then some (c.toNat - 48)
  else if base = 16 && 'a' ≤ c.toLower && c.toLower ≤ 'f' then some (c.toLower.toNat - 87)
  else none

/-- Whether the underscores of a numeral each stand between two digits, a
base prefix counting as a digit. -/
def underscoresOk (s : List Char) : Bool :=
  let s := match s with
    | c :: r => if c = '-' || c = '+' then r else s
    | [] => []
  let (hex, saw, body) : Bool × Option Char × List Char := match s with
    | '0' :: b :: r =>
      if b.toLower = 'b' || b.toLower = 'o' || b.toLower = 'x' then (b.toLower = 'x', some '0', r)
      else (false, some '^', s)
    | _ => (false, some '^', s)
  let step (saw : Option Char) (c : Char) : Option Char := do
    let last ← saw
    if c.isDigit || (hex && 'a' ≤ c.toLower && c.toLower ≤ 'f') then some '0'
    else if c = '_' then (if last = '0' then some '_' else none)
    else if last = '_' then none
    else some '!'
  match body.foldl step saw with
  | some last => last != '_'
  | none => false

/-- The digits of a mantissa, underscores skipped and at most one point
taken: their value, how many there were and how many stood before the
point, with the text after them. -/
def mantissaDigits (base : Nat) : List Char → Nat × Nat × Option Nat → (Nat × Nat × Option Nat) × List Char
  | [], acc => (acc, [])
  | c :: r, (v, n, pt) =>
    if c = '_' then mantissaDigits base r (v, n, pt)
    else if c = '.' then
      if pt.isSome then ((v, n, pt), c :: r) else mantissaDigits base r (v, n, some n)
    else match digitIn base c with
      | some d => mantissaDigits base r (v * base + d, n + 1, pt)
      | none => ((v, n, pt), c :: r)

def exponentDigits (s : List Char) : Nat :=
  s.foldl (fun acc c => if c = '_' then acc else acc * 10 + (c.toNat - 48)) 0

/-- The word for an infinity or NaN: `inf` or `infinity` in any case with
an optional sign, or `nan` in any case without one. -/
def special? (s : List Char) : Option Reading :=
  let (neg, signed, body) := match s with
    | '-' :: r => (true, true, r)
    | '+' :: r => (false, true, r)
    | r => (false, false, r)
  let lower := body.map Char.toLower
  if lower = "inf".toList || lower = "infinity".toList then some (.infinity neg)
  else if lower = "nan".toList && !signed then some .nan
  else none

/-- What a numeral denotes. A numeral is an optional sign, then decimal
digits with an optional point and an optional exponent `e±d`, or `0x` and
hexadecimal digits with an optional point and a required binary exponent
`p±d`; underscores may stand between digits. -/
def reading? (s : List Char) : Option Reading :=
  match special? s with
  | some r => some r
  | none =>
    let (neg, body) := match s with
      | '-' :: r => (true, r)
      | '+' :: r => (false, r)
      | r => (false, r)
    let (base, digits) := match body with
      | '0' :: x :: r@(_ :: _) => if x.toLower = 'x' then (16, r) else (10, body)
      | _ => (10, body)
    let ((v, n, pt), rest) := mantissaDigits base digits (0, 0, none)
    let fracDigits : Int := n - pt.getD n
    let expChar := if base = 16 then 'p' else 'e'
    let exp? : Option (Int × List Char) := match rest with
      | c :: r =>
        if c.toLower = expChar then
          let (eneg, ds) := match r with
            | '-' :: d => (true, d)
            | '+' :: d => (false, d)
            | d => (false, d)
          match ds with
          | d :: _ =>
            if d.isDigit then
              let run := ds.takeWhile fun c => c.isDigit || c = '_'
              let e : Int := exponentDigits run
              some (if eneg then -e else e, ds.drop run.length)
            else none
          | [] => none
        else if base = 16 then none else some (0, rest)
      | [] => if base = 16 then none else some (0, [])
    match exp? with
    | some (e, []) =>
      if n = 0 then none
      else if s.contains '_' && !underscoresOk s then none
      else if base = 16 then some (.binary neg v (e - 4 * fracDigits))
      else some (.decimal neg v (e - fracDigits))
    | _ => none

namespace Format

/-- The pattern nearest `mant · 2 ^ exp`. Exponents far past either end of
the format go straight to infinity or zero. -/
def ofBinary (f : Format) (neg : Bool) (mant : Nat) (exp : Int) : Nat :=
  let size : Int := Nat.log2 mant + 1
  if mant = 0 then f.pack neg 0 0
  else if exp + size > 2000 then f.pack neg f.topExp 0
  else if exp + size < -2000 then f.pack neg 0 0
  else if 0 ≤ exp then f.round neg (mant * Nat.pow 2 exp.toNat) 1
  else f.round neg mant (Nat.pow 2 (-exp).toNat)

def ofReading (f : Format) : Reading → Nat
  | .decimal neg digits exp => f.ofDecimal neg digits exp
  | .binary neg mant exp => f.ofBinary neg mant exp
  | .infinity neg => f.pack neg f.topExp 0
  | .nan => f.readNaN

def parse? (f : Format) (text : String) : Option Nat :=
  (reading? text.toList).map f.ofReading

def isInfinite (f : Format) (bits : Nat) : Bool :=
  match f.classify bits with
  | .infinite _ => true
  | _ => false

/-- The pattern a text denotes, or none when the text is not a number or is a
numeral too large for the format (only the words for infinity read as one). -/
def read? (f : Format) (text : String) : Option Nat :=
  match f.parse? text with
  | none => none
  | some b =>
    let word := (text.toList.dropWhile fun c => c = '+' || c = '-').map Char.toLower
    if f.isInfinite b && !(word = "inf".toList || word = "infinity".toList) then none
    else some b

end Format

end DroneProtocol.Ieee
