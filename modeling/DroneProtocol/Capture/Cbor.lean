import DroneProtocol.Ieee.Binary

/-! # Concise binary data items

Items are written with the shortest head and definite lengths. Reading checks
that the bytes are well formed before anything is made of them: nothing runs
past the end, breaks close only indefinite items, nesting is at most 32 deep
and an array or map has at most 131072 elements. -/

namespace DroneProtocol.Cbor

/-- The major types of data items. -/
inductive Major where
  | unsigned | negative | bytes | text | array | map | tag | simple
  deriving DecidableEq, Repr, Inhabited

def Major.ofByte (b : UInt8) : Major :=
  match b.toNat / 32 with
  | 0 => .unsigned | 1 => .negative | 2 => .bytes | 3 => .text
  | 4 => .array | 5 => .map | 6 => .tag | _ => .simple

def Major.code : Major → Nat
  | .unsigned => 0 | .negative => 1 | .bytes => 2 | .text => 3
  | .array => 4 | .map => 5 | .tag => 6 | .simple => 7

def Major.name : Major → String
  | .unsigned => "positive integer" | .negative => "negative integer"
  | .bytes => "byte string" | .text => "UTF-8 text string" | .array => "array"
  | .map => "map" | .tag => "tag" | .simple => "primitives"

def half : Ieee.Format := ⟨10, 5⟩

/-- A data item. -/
inductive Item where
  | unsigned (v : Nat)
  /-- The integer `-1 - v`. -/
  | negative (v : Nat)
  | bytes (b : List UInt8)
  /-- Text as its bytes, not yet checked to be UTF-8. -/
  | text (b : List UInt8)
  | array (items : List Item)
  | map (entries : List (Item × Item))
  | tagged (tag : Nat) (content : Item)
  /-- A simple value: 20 and 21 are false and true, 22 null, 23 undefined. -/
  | simple (v : Nat)
  /-- A floating-point number in one of the three widths. -/
  | float (format : Ieee.Format) (bits : Nat)
  deriving Repr, Inhabited

/-- The major type of an item. -/
def Item.major : Item → Major
  | .unsigned _ => .unsigned | .negative _ => .negative | .bytes _ => .bytes
  | .text _ => .text | .array _ => .array | .map _ => .map | .tagged .. => .tag
  | .simple _ | .float .. => .simple

def Item.isNil : Item → Bool
  | .simple 22 | .simple 23 => true
  | _ => false

def bigEndian (width n : Nat) : List UInt8 :=
  (List.range width).reverse.map fun i => (n / Nat.pow 256 i % 256).toUInt8

/-- The shortest head of a major type and argument. -/
def head (m : Major) (v : Nat) : List UInt8 :=
  let top := m.code * 32
  if v < 24 then [(top + v).toUInt8]
  else if v < 256 then (top + 24).toUInt8 :: bigEndian 1 v
  else if v < 65536 then (top + 25).toUInt8 :: bigEndian 2 v
  else if v < 4294967296 then (top + 26).toUInt8 :: bigEndian 4 v
  else (top + 27).toUInt8 :: bigEndian 8 v

/-- An integer: unsigned when not negative. -/
def int (i : Int) : Item := if i < 0 then .negative (-1 - i).toNat else .unsigned i.toNat

def bool (b : Bool) : Item := .simple (if b then 21 else 20)

def null : Item := .simple 22

/-- The bytes of an item, with definite lengths and shortest heads. -/
def Item.encode : Item → List UInt8
  | .unsigned v => head .unsigned v
  | .negative v => head .negative v
  | .bytes b => head .bytes b.length ++ b
  | .text b => head .text b.length ++ b
  | .array items => head .array items.length ++ (items.attach.flatMap fun ⟨i, _⟩ => i.encode)
  | .map entries => head .map entries.length ++
      (entries.attach.flatMap fun ⟨(k, v), _⟩ => k.encode ++ v.encode)
  | .tagged t c => head .tag t ++ c.encode
  | .simple v => if v < 32 then head .simple v else [0xF8, v.toUInt8]
  | .float f bits =>
    let ai := if f.width = 16 then 25 else if f.width = 32 then 26 else 27
    (0xE0 + ai).toUInt8 :: bigEndian (f.width / 8) bits
decreasing_by
  all_goals simp_wf
  all_goals first
    | omega
    | exact Nat.lt_of_lt_of_le (List.sizeOf_lt_of_mem ‹_ ∈ items›) (by omega)
    | (have h := List.sizeOf_lt_of_mem ‹_ ∈ entries›
       simp only [Prod.mk.sizeOf_spec] at h
       omega)

/-- Why bytes are not a well-formed item. -/
inductive SyntaxError where
  /-- The bytes end inside an item. -/
  | truncated
  /-- A break where no indefinite-length item is open, or after a map key. -/
  | unexpectedBreak
  /-- Additional information that the major type does not allow. -/
  | reservedInfo (info : Nat) (m : Major)
  /-- A simple value below 32 written with a following byte. -/
  | invalidSimple (v : Nat)
  /-- A chunk of another type inside an indefinite-length string. -/
  | wrongChunk (chunk string : Major)
  /-- An indefinite-length chunk inside an indefinite-length string. -/
  | indefiniteChunk (string : Major)
  /-- A string longer than any length in memory. -/
  | hugeString (m : Major) (length : Nat)
  /-- An array or map longer than any length in memory. -/
  | hugeCollection (m : Major) (length : Nat)
  | tooManyElements
  | tooManyPairs
  | tooDeep
  deriving DecidableEq, Repr

def maxDepth : Nat := 32

def maxCount : Nat := 131072

def maxLength : Nat := Nat.pow 2 63 - 1

def SyntaxError.message : SyntaxError → String
  | .truncated => "unexpected EOF"
  | .unexpectedBreak => "cbor: unexpected \"break\" code"
  | .reservedInfo ai m => s!"cbor: invalid additional information {ai} for type " ++ m.name
  | .invalidSimple v => s!"cbor: invalid simple value {v} for type primitives"
  | .wrongChunk c s => "cbor: wrong element type " ++ c.name ++ " for indefinite-length " ++ s.name
  | .indefiniteChunk s => "cbor: indefinite-length " ++ s.name ++ " chunk is not definite-length"
  | .hugeString m n => "cbor: " ++ m.name ++ s!" length {n} is too large, causing integer overflow"
  | .hugeCollection m n =>
    "cbor: " ++ m.name ++ s!" length {n} is too large, it would cause integer overflow"
  | .tooManyElements => s!"cbor: exceeded max number of elements {maxCount} for CBOR array"
  | .tooManyPairs => s!"cbor: exceeded max number of key-value pairs {maxCount} for CBOR map"
  | .tooDeep => s!"cbor: exceeded max nested level {maxDepth}"

def ofBigEndian (bs : List UInt8) : Nat := bs.foldl (fun acc b => acc * 256 + b.toNat) 0

/-- A head: its major type, additional information and argument. Indefinite
length (31) is allowed for strings, arrays and maps only; for the simple
type it is a break. -/
def readHead (bs : List UInt8) : Except SyntaxError (Major × Nat × Nat × List UInt8) :=
  match bs with
  | [] => throw .truncated
  | b :: rest => do
    let m := Major.ofByte b
    let ai := b.toNat % 32
    if ai < 24 then pure (m, ai, ai, rest)
    else if ai ≤ 27 then
      let n := Nat.pow 2 (ai - 24)
      if rest.length < n then throw .truncated
      let v := ofBigEndian (rest.take n)
      if ai = 24 && m = .simple && v < 32 then throw (.invalidSimple v)
      pure (m, ai, v, rest.drop n)
    else if ai = 31 then
      match m with
      | .unsigned | .negative | .tag => throw (.reservedInfo ai m)
      | .simple => throw .unexpectedBreak
      | _ => pure (m, ai, 0, rest)
    else throw (.reservedInfo ai m)

def atBreak : List UInt8 → Bool
  | 0xFF :: _ => true
  | _ => false

/-- Consecutive items as key and value pairs. -/
def pairs : List Item → List (Item × Item)
  | k :: v :: rest => (k, v) :: pairs rest
  | _ => []

mutual

/-- One well-formed item at a nesting depth, and the bytes after it. -/
def read (depth : Nat) : Nat → List UInt8 → Except SyntaxError (Item × List UInt8)
  | 0, _ => throw .truncated
  | fuel + 1, bs => do
    let (m, ai, v, rest) ← readHead bs
    match m with
    | .unsigned => pure (.unsigned v, rest)
    | .negative => pure (.negative v, rest)
    | .bytes | .text =>
      if ai = 31 then
        let (chunks, rest) ← chunks m fuel rest
        pure ((if m = .bytes then Item.bytes else Item.text) chunks, rest)
      else if v > maxLength then throw (.hugeString m v)
      else if rest.length < v then throw .truncated
      else pure ((if m = .bytes then Item.bytes else Item.text) (rest.take v), rest.drop v)
    | .array | .map =>
      if depth + 1 > maxDepth then throw .tooDeep
      if ai = 31 then
        let (items, rest) ← untilBreak (depth + 1) fuel rest
        if m = .array then pure (.array items, rest)
        else if items.length % 2 = 1 then throw .unexpectedBreak
        else pure (.map (pairs items), rest)
      else if v > maxLength then throw (.hugeCollection m v)
      else if v > maxCount then throw (if m = .array then .tooManyElements else .tooManyPairs)
      else
        let (items, rest) ← several (depth + 1) (if m = .array then v else 2 * v) fuel rest
        if m = .array then pure (.array items, rest) else pure (.map (pairs items), rest)
    | .tag =>
      match rest with
      | [] => throw .truncated
      | b :: _ =>
        let inner := if Major.ofByte b = .tag then depth + 1 else depth
        if inner > maxDepth then throw .tooDeep
        let (c, rest) ← read inner fuel rest
        pure (.tagged v c, rest)
    | .simple =>
      if ai = 25 then pure (.float half v, rest)
      else if ai = 26 then pure (.float Ieee.single v, rest)
      else if ai = 27 then pure (.float Ieee.double v, rest)
      else pure (.simple v, rest)

def several (depth n : Nat) : Nat → List UInt8 → Except SyntaxError (List Item × List UInt8)
  | 0, _ => throw .truncated
  | fuel + 1, bs =>
    match n with
    | 0 => pure ([], bs)
    | k + 1 => do
      let (i, rest) ← read depth fuel bs
      let (is, rest) ← several depth k fuel rest
      pure (i :: is, rest)

def untilBreak (depth : Nat) : Nat → List UInt8 → Except SyntaxError (List Item × List UInt8)
  | 0, _ => throw .truncated
  | fuel + 1, bs =>
    match bs with
    | [] => throw .truncated
    | 0xFF :: rest => pure ([], rest)
    | _ => do
      let (i, rest) ← read depth fuel bs
      let (is, rest) ← untilBreak depth fuel rest
      pure (i :: is, rest)

/-- The chunks of an indefinite-length string up to its break, joined. -/
def chunks (m : Major) : Nat → List UInt8 → Except SyntaxError (List UInt8 × List UInt8)
  | 0, _ => throw .truncated
  | fuel + 1, bs =>
    match bs with
    | [] => throw .truncated
    | 0xFF :: rest => pure ([], rest)
    | b :: _ =>
      if Major.ofByte b != m then throw (.wrongChunk (Major.ofByte b) m)
      else if b.toNat % 32 = 31 then throw (.indefiniteChunk m)
      else do
        let (_, _, v, rest) ← readHead bs
        if v > maxLength then throw (.hugeString m v)
        if rest.length < v then throw .truncated
        let (more, after) ← chunks m fuel (rest.drop v)
        pure (rest.take v ++ more, after)

end

def fuelFor (bs : List UInt8) : Nat := 2 * bs.length + 2

def readItem (bs : List UInt8) : Except SyntaxError (Item × List UInt8) := read 0 (fuelFor bs) bs

end DroneProtocol.Cbor
