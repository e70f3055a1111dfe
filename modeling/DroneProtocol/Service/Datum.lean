import DroneProtocol.Bytes.Hex
import DroneProtocol.Bytes.Utf8

/-! # Request and answer documents

Documents are null, booleans, numbers, strings, arrays and objects with keys
in order. A number keeps how it was written, so `-0.0` stays negative; a
member holding null reads as absent. -/

namespace DroneProtocol.Service

/-- A request or answer document. -/
inductive Datum where
  | null
  | bool (b : Bool)
  /-- A whole number written without a point or an exponent. -/
  | num (value : Int)
  /-- A number written with a point or an exponent: `mantissa · 10 ^ exp`,
  negative when `negative` holds. -/
  | real (negative : Bool) (mantissa : Nat) (exp : Int)
  | str (s : String)
  | arr (items : List Datum)
  | obj (fields : List (String × Datum))
  deriving Repr, Inhabited

namespace Datum

def depth : Datum → Nat
  | .arr items => 1 + (items.attach.map fun ⟨d, _⟩ => depth d).foldr max 0
  | .obj fields => 1 + (fields.attach.map fun ⟨p, _⟩ => depth p.2).foldr max 0
  | _ => 0
termination_by d => sizeOf d
decreasing_by
  all_goals simp_wf
  · have := List.sizeOf_lt_of_mem ‹d ∈ items›
    omega
  · have := List.sizeOf_lt_of_mem ‹p ∈ fields›
    cases p
    simp only [Prod.mk.sizeOf_spec] at this ⊢
    omega

def int (i : Int) : Datum := .num i

def nat (n : Nat) : Datum := .num n

def strs (l : List String) : Datum := .arr (l.map .str)

/-- Bytes written as lower-case hex. -/
def hex (bs : List UInt8) : Datum := .str (Hex.encode bs)

/-- Text given as bytes: a string when it is UTF-8, else its bytes in hex. -/
def text (bs : List UInt8) : Datum :=
  if Utf8.valid bs then .str (String.ofList (Utf8.chars bs))
  else .obj [("bytes_hex", hex bs)]

def field? (d : Datum) (k : String) : Option Datum :=
  match d with
  | .obj fs =>
    match List.lookup k fs with
    | some .null => none
    | v => v
  | _ => none

/-- Whether an object has a member, null or not. -/
def has (d : Datum) (k : String) : Bool :=
  match d with
  | .obj fs => fs.any (·.1 == k)
  | _ => false

def str? : Datum → Option String
  | .str s => some s
  | _ => none

def bool? : Datum → Option Bool
  | .bool b => some b
  | _ => none

/-- The integer a number is, if it is one and not out of all bounds: a
value of more than a thousand digits counts as none. -/
def int? : Datum → Option Int
  | .num v => some v
  | .real neg m e =>
    let sign : Int := if neg then -1 else 1
    if 0 ≤ e then (if e ≤ 1000 then some (sign * (m * Nat.pow 10 e.toNat : Nat)) else none)
    else if m = 0 then some 0
    else if (Nat.toDigits 10 m).length ≤ (-e).toNat then none
    else if m % Nat.pow 10 (-e).toNat = 0 then some (sign * (m / Nat.pow 10 (-e).toNat : Nat)) else none
  | _ => none

def items : Datum → List Datum
  | .arr l => l
  | _ => []

def fields : Datum → List (String × Datum)
  | .obj fs => fs
  | _ => []

def flag (d : Datum) (k : String) : Bool := ((d.field? k).bind bool?).getD false

/-- A string member, empty when absent. -/
def string (d : Datum) (k : String) : String := ((d.field? k).bind str?).getD ""

def intAt? (d : Datum) (k : String) : Option Int := (d.field? k).bind int?

def list (d : Datum) (k : String) : List Datum := ((d.field? k).map items).getD []

/-- The members of an object member. -/
def members (d : Datum) (k : String) : List (String × Datum) := ((d.field? k).map fields).getD []

/-- An object with a member set: replaced in place if present, else added
at the end. -/
def set (d : Datum) (k : String) (v : Datum) : Datum :=
  match d with
  | .obj fs =>
    if fs.any (·.1 == k) then .obj (fs.map fun p => if p.1 == k then (k, v) else p)
    else .obj (fs ++ [(k, v)])
  | d => d

def extend (d : Datum) (more : List (String × Datum)) : Datum :=
  match d with
  | .obj fs => .obj (fs ++ more)
  | d => d

end Datum

abbrev Outcome := Except Datum

def refuse {α : Type} (msg : String) : Outcome α :=
  throw (.obj [("error", .str "bad_input"), ("message", .str msg), ("sentinels", .arr [])])

def hexAt (d : Datum) (k : String) : Outcome (List UInt8) :=
  match Hex.decode? (((d.field? k).bind Datum.str?).getD "") with
  | some b => pure b
  | none => refuse "hex"

end DroneProtocol.Service
