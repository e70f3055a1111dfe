import DroneProtocol.Ieee.Binary

/-! # Shortest decimal of a binary value

A finite value is read back from any decimal inside its rounding interval.
`shortest` tries one significant digit, then two, and so on; the first grid
with a hit wins, the nearer of two hits, a tie to the even digit. All
arithmetic is on natural numbers. -/

namespace DroneProtocol.Ieee

/-- A decimal `digits · 10 ^ exp`. -/
structure Decimal where
  digits : Nat
  exp : Int
  deriving DecidableEq, Repr

def digitCount (n : Nat) : Nat := (Nat.toDigits 10 n).length

def Decimal.trim (d : Decimal) : Decimal :=
  if h : d.digits ≠ 0 ∧ d.digits % 10 = 0 then
    have : d.digits / 10 < d.digits := Nat.div_lt_self (Nat.pos_of_ne_zero h.1) (by decide)
    Decimal.trim ⟨d.digits / 10, d.exp + 1⟩
  else d
termination_by d.digits

/-- The value and the two ends of its rounding interval, as integers over
`10 ^ scale`: `4m`, `4m - 2` (or `4m - 1` when narrow) and `4m + 2`, each times
`2 ^ (q - 2)`. -/
structure Bracket where
  value : Nat
  low : Nat
  high : Nat
  scale : Nat
  inclusive : Bool

/-- The bracket of `m · 2^q`. -/
def Bracket.of (m : Nat) (q : Int) (narrow : Bool) : Bracket :=
  let lowTimes := 4 * m - (if narrow then 1 else 2)
  if 2 ≤ q then
    let s := Nat.pow 2 (q - 2).toNat
    ⟨4 * m * s, lowTimes * s, (4 * m + 2) * s, 0, m % 2 = 0⟩
  else
    let t := (2 - q).toNat
    let s := Nat.pow 5 t
    ⟨4 * m * s, lowTimes * s, (4 * m + 2) * s, t, m % 2 = 0⟩

def Bracket.admits (b : Bracket) (c : Nat) : Bool :=
  if b.inclusive then b.low ≤ c && c ≤ b.high else b.low < c && c < b.high

def Bracket.hit? (b : Bracket) (n : Nat) : Option Decimal :=
  let total := digitCount b.value
  if total ≤ n then some ⟨b.value, -(b.scale : Int)⟩
  else
    let s := total - n
    let step := Nat.pow 10 s
    let lo := b.value / step * step
    let hi := lo + step
    let exp : Int := (s : Int) - b.scale
    match b.admits lo, b.admits hi with
    | true, true =>
      if b.value - lo < hi - b.value then some ⟨lo / step, exp⟩
      else if hi - b.value < b.value - lo then some ⟨hi / step, exp⟩
      else if (lo / step) % 2 = 0 then some ⟨lo / step, exp⟩ else some ⟨hi / step, exp⟩
    | true, false => some ⟨lo / step, exp⟩
    | false, true => some ⟨hi / step, exp⟩
    | false, false => none

def Bracket.search (b : Bracket) (n : Nat) : Nat → Decimal
  | 0 => ⟨b.value, -(b.scale : Int)⟩
  | fuel + 1 =>
    match b.hit? n with
    | some d => d
    | none => b.search (n + 1) fuel

/-- The shortest decimal that reads back as `m · 2^q` (with `m > 0`), nearest
the value among those of its length, without trailing zeros. -/
def shortest (m : Nat) (q : Int) (narrow : Bool) : Decimal :=
  let b := Bracket.of m q narrow
  (b.search 1 (digitCount b.value)).trim

end DroneProtocol.Ieee
