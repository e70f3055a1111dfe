/-! # Integer numerals

An optional sign, then digits in a base; with base zero the numeral picks its
own (`0x`, `0o`, `0b`, a leading `0`) and underscores may separate digits.
Values are exact integers; the caller checks the range. -/

namespace DroneProtocol.Numeral

def digitValue (c : Char) : Nat :=
  if '0' ≤ c && c ≤ '9' then c.toNat - 48
  else if 'a' ≤ c.toLower && c.toLower ≤ 'z' then c.toLower.toNat - 87
  else 36

/-- The value of digits in a base, skipping underscores when they are allowed;
none for an empty or invalid digit string. -/
def digits? (base : Nat) (underscores : Bool) (cs : List Char) : Option Nat :=
  go cs 0
where
  go : List Char → Nat → Option Nat
    | [], acc => some acc
    | c :: rest, acc =>
      if underscores && c = '_' then go rest acc
      else
        let d := digitValue c
        if d < base then go rest (acc * base + d) else none

/-- Whether underscores in a numeral only separate digits (a base prefix
counts as a digit). -/
def underscoresOk (cs : List Char) : Bool :=
  let body := match cs with
    | '-' :: r | '+' :: r => r
    | r => r
  let (start, hex, rest) := match body with
    | '0' :: c :: r =>
      if c.toLower = 'b' || c.toLower = 'o' || c.toLower = 'x' then ('0', c.toLower == 'x', r)
      else ('^', false, body)
    | _ => ('^', false, body)
  let last := rest.foldl (fun (saw : Char) c =>
    if saw = '?' then '?'
    else if c.isDigit || (hex && 'a' ≤ c.toLower && c.toLower ≤ 'f') then '0'
    else if c = '_' then (if saw = '0' then '_' else '?')
    else if saw = '_' then '?'
    else '!') start
  last ≠ '_' && last ≠ '?'

/-- An unsigned numeral in a base from 2 to 36, or in the base its prefix
names when the base is zero. -/
def unsigned? (base : Nat) (s : String) : Option Nat :=
  let cs := s.toList
  if cs.isEmpty then none
  else if base = 0 then
    let (b, ds) := match cs with
      | '0' :: c :: d :: r =>
        if c.toLower = 'b' then (2, d :: r)
        else if c.toLower = 'o' then (8, d :: r)
        else if c.toLower = 'x' then (16, d :: r)
        else (8, c :: d :: r)
      | '0' :: r => (8, r)
      | r => (10, r)
    match digits? b true ds with
    | some v => if cs.contains '_' && !underscoresOk cs then none else some v
    | none => none
  else digits? base false cs

def signed? (base : Nat) (s : String) : Option Int :=
  match s.toList with
  | '-' :: r => (unsigned? base (String.ofList r)).map fun v => -(v : Int)
  | '+' :: r => (unsigned? base (String.ofList r)).map fun v => (v : Int)
  | _ => (unsigned? base s).map fun v => (v : Int)

def int? (base bits : Nat) (s : String) : Option Int :=
  (signed? base s).filter fun v => -Int.pow 2 (bits - 1) ≤ v && v < Int.pow 2 (bits - 1)

def nat? (base bits : Nat) (s : String) : Option Nat :=
  (unsigned? base s).filter fun v => v < Nat.pow 2 bits

end DroneProtocol.Numeral
