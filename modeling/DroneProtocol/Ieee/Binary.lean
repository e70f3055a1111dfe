/-! # Binary interchange formats

Single and double patterns are kept as words, so every pattern, each NaN
included, survives a round trip. `Format.round` picks the pattern nearest a
non-negative rational, a tie going to the even significand. -/

namespace DroneProtocol.Ieee

/-- A binary format by the widths of its fraction and exponent fields. -/
structure Format where
  fracBits : Nat
  expBits : Nat
  deriving DecidableEq, Repr

/-- The 32-bit format. -/
def single : Format := ⟨23, 8⟩

/-- The 64-bit format. -/
def double : Format := ⟨52, 11⟩

namespace Format

def bias (f : Format) : Nat := Nat.pow 2 (f.expBits - 1) - 1

def topExp (f : Format) : Nat := Nat.pow 2 f.expBits - 1

def width (f : Format) : Nat := f.fracBits + f.expBits + 1

def hidden (f : Format) : Nat := Nat.pow 2 f.fracBits

def fields (f : Format) (bits : Nat) : Bool × Nat × Nat :=
  (bits / Nat.pow 2 (f.fracBits + f.expBits) % 2 = 1,
   bits / Nat.pow 2 f.fracBits % Nat.pow 2 f.expBits,
   bits % Nat.pow 2 f.fracBits)

def pack (f : Format) (neg : Bool) (e frac : Nat) : Nat :=
  (if neg then Nat.pow 2 (f.fracBits + f.expBits) else 0) + e * Nat.pow 2 f.fracBits + frac

end Format

/-- What a bit pattern denotes. -/
inductive Class where
  /-- `(-1)^neg · m · 2^q`; zero when `m = 0`. -/
  | finite (neg : Bool) (m : Nat) (q : Int)
  | infinite (neg : Bool)
  | nan
  deriving DecidableEq, Repr

namespace Format

def minQ (f : Format) : Int := 1 - (f.bias : Int) - f.fracBits

/-- What a pattern denotes. -/
def classify (f : Format) (bits : Nat) : Class :=
  let (neg, e, frac) := f.fields bits
  if e = f.topExp then (if frac = 0 then .infinite neg else .nan)
  else if e = 0 then .finite neg frac f.minQ
  else .finite neg (f.hidden + frac) ((e : Int) - f.bias - f.fracBits)

/-- Whether the gap below a finite pattern is half the gap above it: its
fraction is zero and its exponent is above the smallest normal one. -/
def narrowBelow (f : Format) (bits : Nat) : Bool :=
  let (_, e, frac) := f.fields bits
  frac = 0 && e > 1

end Format

/-- `num / den` rounded to the nearest natural number, a tie going to the even one. -/
def roundDiv (num den : Nat) : Nat :=
  let q := num / den
  let r := num % den
  if 2 * r < den then q
  else if 2 * r > den then q + 1
  else if q % 2 = 0 then q else q + 1

def powTwoLe (k : Int) (num den : Nat) : Bool :=
  if 0 ≤ k then den * Nat.pow 2 k.toNat ≤ num else den ≤ num * Nat.pow 2 (-k).toNat

namespace Format

/-- The pattern nearest `num / den` with the given sign, a tie going to the even
significand; values past the largest finite one become infinite. -/
def round (f : Format) (neg : Bool) (num den : Nat) : Nat :=
  if num = 0 || den = 0 then f.pack neg 0 0
  else
    let est : Int := (Nat.log2 num : Int) - Nat.log2 den
    let k := if powTwoLe est num den then est else est - 1
    let q0 : Int := max k (1 - (f.bias : Int)) - f.fracBits
    let m0 := if 0 ≤ q0 then roundDiv num (den * Nat.pow 2 q0.toNat)
      else roundDiv (num * Nat.pow 2 (-q0).toNat) den
    let (m, q) := if m0 = 2 * f.hidden then (f.hidden, q0 + 1) else (m0, q0)
    if m < f.hidden then f.pack neg 0 m
    else
      let e := q + f.fracBits + f.bias
      if f.topExp ≤ e then f.pack neg f.topExp 0
      else f.pack neg e.toNat (m - f.hidden)

/-- The pattern nearest `digits · 10 ^ exp`. Exponents far past either end of
the format go straight to infinity or zero. -/
def ofDecimal (f : Format) (neg : Bool) (digits : Nat) (exp : Int) : Nat :=
  let size : Int := (Nat.toDigits 10 digits).length
  if digits = 0 then f.pack neg 0 0
  else if exp + size > 400 then f.pack neg f.topExp 0
  else if exp + size < -400 then f.pack neg 0 0
  else if 0 ≤ exp then f.round neg (digits * Nat.pow 10 exp.toNat) 1
  else f.round neg digits (Nat.pow 10 (-exp).toNat)

/-- The NaN that reading the word "NaN" gives: the 64-bit quiet NaN with
payload 1, narrowed to a smaller format by dropping low fraction bits. -/
def readNaN (f : Format) : Nat :=
  f.pack false f.topExp ((Nat.pow 2 51 + 1) / Nat.pow 2 (52 - f.fracBits))

end Format

end DroneProtocol.Ieee
