import DroneProtocol.Wire.Codec

/-! # Reading arguments

A multiset argument walks the sub-frames of its region, recording failures and
counting foreign sub-frames. One level of reading is written once, open in how
it reads a nested body (`decodeArgsWith`), and tied to itself as many times as
the payload is long. -/

namespace DroneProtocol

/-- A position in a byte string being read. -/
structure Cursor where
  rest : List UInt8
  offset : Nat
  deriving Repr

namespace Cursor

def take (c : Cursor) (n : Nat) : Except WireError (List UInt8 × Cursor) :=
  if n ≤ c.rest.length then pure (c.rest.take n, ⟨c.rest.drop n, c.offset + n⟩)
  else throw (.short n c.offset c.rest.length)

def word (c : Cursor) (n : Nat) : Except WireError (Nat × Cursor) := do
  let (bs, c) ← c.take n
  pure (LittleEndian.value bs, c)

end Cursor

/-- The sub-frames of a multiset body, each behind its 16-bit size, and the
failure that stopped the walk early, if any. -/
def subframes : Nat → Cursor → List (List UInt8) × Option WireError
  | 0, _ => ([], none)
  | fuel + 1, c =>
    if c.rest.isEmpty then ([], none)
    else
      match c.word 2 with
      | .error e => ([], some e)
      | .ok (size, c) =>
        match c.take size with
        | .error e => ([], some e)
        | .ok (raw, c) =>
          let (more, err) := subframes fuel c
          (raw :: more, err)

abbrev BodyReader := MultisetDecl → List UInt8 → Except WireError MultisetValue

namespace CodecOptions

def decodeText (o : CodecOptions) (c : Cursor) : Except WireError (List UInt8 × Cursor) := do
  let (s, c) ← if o.strings = .nulTerminated then
      match c.rest.idxOf? 0 with
      | none => throw .unterminated
      | some i => do
        let (bs, c) ← c.take (i + 1)
        pure (bs.take i, c)
    else do
      let (n, c) ← c.word 2
      c.take n
  checkText s
  pure (s, c)

/-- One argument read at a cursor, nested bodies read by `body`. -/
def decodeArgWith (body : BodyReader) (cat : Catalog) (o : CodecOptions) (a : Arg)
    (c : Cursor) : Except WireError (Value × Cursor) :=
  match a.type with
  | .i8 => do let (x, c) ← c.word 1; pure (.i8 x.toUInt8.toInt8, c)
  | .u8 => do let (x, c) ← c.word 1; pure (.u8 x.toUInt8, c)
  | .i16 => do let (x, c) ← c.word 2; pure (.i16 x.toUInt16.toInt16, c)
  | .u16 => do let (x, c) ← c.word 2; pure (.u16 x.toUInt16, c)
  | .i32 => do let (x, c) ← c.word 4; pure (.i32 x.toUInt32.toInt32, c)
  | .u32 => do let (x, c) ← c.word 4; pure (.u32 x.toUInt32, c)
  | .i64 => do let (x, c) ← c.word 8; pure (.i64 x.toUInt64.toInt64, c)
  | .u64 => do let (x, c) ← c.word 8; pure (.u64 x.toUInt64, c)
  | .float => do let (x, c) ← c.word 4; pure (.f32 x.toUInt32, c)
  | .double => do let (x, c) ← c.word 8; pure (.f64 x.toUInt64, c)
  | .string => do let (s, c) ← o.decodeText c; pure (.text s, c)
  | .binary => do
    let (n, c) ← c.word 4
    if c.rest.length < n then throw (.shortBinary n c.rest.length)
    let (bs, c) ← c.take n
    pure (.bytes bs, c)
  | .enum => do
    let (x, c) ← c.word 4
    let v := x.toUInt32.toInt32
    let t := a.enumTable.getD ⟨"", []⟩
    match t.byValue? v with
    | some e => pure (.entry e, c)
    | none => throw (.numberNotInTable v t.name)
  | .bitfield =>
    match a.base with
    | .u8 => do let (x, c) ← c.word 1; pure (.u8 x.toUInt8, c)
    | .u16 => do let (x, c) ← c.word 2; pure (.u16 x.toUInt16, c)
    | .u32 => do let (x, c) ← c.word 4; pure (.u32 x.toUInt32, c)
    | _ => do let (x, c) ← c.word 8; pure (.u64 x.toUInt64, c)
  | .multiset => do
    let (n, c) ← c.word 2
    let (region, c) ← (c.take n).mapError WireError.malformed
    let r := a.multiset.getD ⟨"", 0⟩
    let decl := (cat.resolve? r).getD ⟨r.name, r.key, []⟩
    let ms ← body decl region
    match o.strictMultiset, ms.errors with
    | true, e :: _ => throw e
    | _, _ => pure (.multiset (some ms), c)
  | .unknown k => throw (.unsupportedType (.unknown k))

/-- The arguments of a command read off its payload. -/
def decodeArgsWith (body : BodyReader) (cat : Catalog) (o : CodecOptions) (cmd : Command)
    (payload : List UInt8) : Except WireError (List Value) :=
  go 0 cmd.args ⟨payload, 0⟩
where
  go (i : Nat) : List Arg → Cursor → Except WireError (List Value)
    | [], c =>
      if c.rest.isEmpty then pure []
      else throw (.decode cmd.name cmd.identity (-1) ""
        (.trailing c.rest.length cmd.args.length))
    | a :: as, c => do
      let (v, c) ← (o.decodeArgWith body cat a c).mapError
        fun e => .decode cmd.name cmd.identity i a.name e
      let vs ← go (i + 1) as c
      pure (v :: vs)

/-- The value of a multiset body: slots filled from member sub-frames. -/
def decodeBodyWith (body : BodyReader) (cat : Catalog) (o : CodecOptions) (decl : MultisetDecl)
    (region : List UInt8) : Except WireError MultisetValue :=
  let (raws, err) := subframes (region.length + 1) ⟨region, 0⟩
  match err with
  | some e => throw (.decode decl.name default (-1) "" (.malformed e))
  | none => pure (raws.zipIdx.foldl step (Slots.empty decl))
where
  step (ms : MultisetValue) : List UInt8 × Nat → MultisetValue
    | (raw, i) =>
      match Frame.readHeader raw with
      | .error e => { ms with errors := ms.errors ++ [.decode decl.name default i "" e] }
      | .ok id =>
        match decl.member? id with
        | none => { ms with unmatched := ms.unmatched + 1 }
        | some (slot, member) =>
          match o.decodeArgsWith body cat member (raw.drop headerSize) with
          | .error e => { ms with errors := ms.errors ++ [e] }
          | .ok args => { ms with slots := ms.slots.set slot (some args) }

def bodyReader (cat : Catalog) (o : CodecOptions) : Nat → BodyReader
  | 0 => fun decl _ => throw (.decode decl.name default (-1) "" (.malformed .unterminated))
  | fuel + 1 => o.decodeBodyWith (o.bodyReader cat fuel) cat

def decodeArgs (cat : Catalog) (o : CodecOptions) (cmd : Command) (payload : List UInt8) :
    Except WireError (List Value) :=
  o.decodeArgsWith (o.bodyReader cat (payload.length + 1)) cat cmd payload

def decode (cat : Catalog) (o : CodecOptions) (cmd : Command) (f : Frame) :
    Except WireError (List Value) :=
  if f.id ≠ cmd.identity then
    throw (.decode cmd.name cmd.identity (-1) "" (.identityMismatch f.id cmd.identity))
  else o.decodeArgs cat cmd f.payload

def regionBody (decl : MultisetDecl) (region : List UInt8) : Except WireError (List UInt8) :=
  let structural := fun e => WireError.decode decl.name default (-1) "" (.malformed e)
  (do
    let (n, c) ← Cursor.word ⟨region, 0⟩ 2
    let (body, c) ← c.take n
    if c.rest.isEmpty then pure body else throw (WireError.trailingRegion c.rest.length)).mapError structural

def decodeMultiset (cat : Catalog) (o : CodecOptions) (decl : MultisetDecl)
    (region : List UInt8) : Except WireError (MultisetValue × Option WireError) := do
  let body ← regionBody decl region
  let ms ← o.decodeBodyWith (o.bodyReader cat (region.length + 1)) cat decl body
  pure (ms, WireError.join? ms.errors)

end CodecOptions

end DroneProtocol
