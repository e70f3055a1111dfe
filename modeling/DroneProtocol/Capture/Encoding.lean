import DroneProtocol.Capture.Cbor
import DroneProtocol.Capture.Event
import DroneProtocol.Capture.Rfc3339

/-! # Captured events as binary items

An event is a map from small integer keys to its fields, written in key order
without empty optional fields. Reading skips unknown keys, keeps the first of
two equal keys, looks through tags, and reports the first value of the wrong
kind with the field of the outermost record it sits in. -/

namespace DroneProtocol

namespace Cbor

/-- Why bytes are not a captured event. -/
inductive Failure where
  | malformed (e : SyntaxError)
  /-- There are no bytes at all. -/
  | empty
  /-- An item is followed by more bytes. -/
  | extraneous (count index : Nat)
  /-- A value of a kind the target does not take; `field` is empty outside
  records, and `detail` says more when not empty. -/
  | mismatch (found target field detail : String)
  | invalidText
  /-- Text that does not read as a time. -/
  | badTime (text reason : String)
  /-- A standard tag around a content it does not take. -/
  | badTag (tag : String) (expected : String) (found : Major)
  deriving DecidableEq, Repr

def Failure.message : Failure → String
  | .malformed e => e.message
  | .empty => "EOF"
  | .extraneous n i => s!"cbor: {n} bytes of extraneous data starting at index {i}"
  | .mismatch found target field detail =>
    "cbor: cannot unmarshal " ++ found ++
      (if field.isEmpty then " into Go value of type " else " into Go struct field " ++ field ++ " of type ") ++
      target ++ (if detail.isEmpty then "" else " (" ++ detail ++ ")")
  | .invalidText => "cbor: invalid UTF-8 string"
  | .badTime t r => "cbor: cannot set " ++ t ++ " for time.Time: " ++ r
  | .badTag t e f => "cbor: tag number " ++ t ++ " must be followed by " ++ e ++ ", got " ++ f.name

abbrev Decoded := Except Failure

def maxInt64 : Nat := Nat.pow 2 63 - 1

def refuse {α : Type} (target : String) (detail : String) : Item → Decoded α
  | .text b => if Utf8.valid b then throw (.mismatch "UTF-8 text string" target "" detail)
    else throw .invalidText
  | .negative v => throw (.mismatch "negative integer" target ""
      (if v > maxInt64 then s!"-{v + 1} overflows Go's int64" else detail))
  | i => throw (.mismatch i.major.name target "" detail)

def checkedText (b : List UInt8) : Decoded String :=
  match Utf8.decode? b with
  | some s => pure s
  | none => throw .invalidText

def checkTag (tag : Nat) (content : Item) : Decoded Unit :=
  let m := content.major
  match tag with
  | 0 => if m = .text then pure () else throw (.badTag "0" "text string" m)
  | 1 =>
    match content with
    | .unsigned _ | .negative _ | .float .. => pure ()
    | _ => throw (.badTag "1" "integer or floating-point number" m)
  | 2 | 3 => if m = .bytes then pure () else throw (.badTag "2 or 3" "byte string" m)
  | _ => pure ()

/-- The value of a big number tag: tag 2 holds a magnitude, tag 3 holds
`-1 - n`. -/
def bignum (tag : Nat) (b : List UInt8) : Int :=
  let n := ofBigEndian b
  if tag = 2 then n else -1 - (n : Int)

def refuseBignum {α : Type} (target : String) (v : Int) : Decoded α :=
  if -Int.pow 2 63 ≤ v && v < Int.pow 2 64 then throw (.mismatch "tag" target "" "")
  else throw (.mismatch "tag" target "" s!"{v} overflows {target}")

/-- An unsigned integer of some bits into a field of a named type. -/
def unsigned (target : String) (bits cur : Nat) : Item → Decoded Nat
  | .tagged 55799 c => unsigned target bits cur c
  | .tagged n c => do
    checkTag n c
    match n, c with
    | 2, .bytes b | 3, .bytes b =>
      let v := bignum n b
      if v < 0 then
        if v < -Int.pow 2 63 then throw (.mismatch "tag" target "" s!"{v} overflows {target}")
        else throw (.mismatch "tag" target "" "")
      else if v < Int.pow 2 bits then pure v.toNat
      else throw (.mismatch "tag" target "" s!"{v} overflows {target}")
    | _, _ => unsigned target bits cur c
  | .unsigned v =>
    if v < Nat.pow 2 bits then pure v else throw (.mismatch "positive integer" target "" s!"{v} overflows {target}")
  | .simple 22 | .simple 23 => pure cur
  | .simple v =>
    if v = 20 || v = 21 then throw (.mismatch "primitives" target "" "")
    else if v < Nat.pow 2 bits then pure v
    else throw (.mismatch "primitives" target "" s!"{v} overflows {target}")
  | i => refuse target "" i

/-- A 64-bit signed integer into a field of a named type. -/
def signed (target : String) (cur : Int) : Item → Decoded Int
  | .tagged 55799 c => signed target cur c
  | .tagged n c => do
    checkTag n c
    match n, c with
    | 2, .bytes b | 3, .bytes b =>
      let v := bignum n b
      if -Int.pow 2 63 ≤ v && v ≤ maxInt64 then pure v
      else throw (.mismatch "tag" target "" s!"{v} overflows {target}")
    | _, _ => signed target cur c
  | .unsigned v =>
    if v ≤ maxInt64 then pure v else throw (.mismatch "positive integer" target "" s!"{v} overflows {target}")
  | .negative v =>
    if v ≤ maxInt64 then pure (-1 - (v : Int))
    else throw (.mismatch "negative integer" target "" s!"-{v + 1} overflows Go's int64")
  | .simple 22 | .simple 23 => pure cur
  | .simple v =>
    if v = 20 || v = 21 then throw (.mismatch "primitives" target "" "") else pure v
  | i => refuse target "" i

/-- Text into a string field. -/
def text (cur : String) : Item → Decoded String
  | .tagged 55799 c => text cur c
  | .tagged n c => do
    checkTag n c
    match n, c with
    | 2, .bytes b | 3, .bytes b => refuseBignum "string" (bignum n b)
    | _, _ => text cur c
  | .text b => checkedText b
  | .simple 22 | .simple 23 => pure cur
  | i => refuse "string" "" i

def flag (cur : Bool) : Item → Decoded Bool
  | .tagged 55799 c => flag cur c
  | .tagged n c => do
    checkTag n c
    match n, c with
    | 2, .bytes b | 3, .bytes b => refuseBignum "bool" (bignum n b)
    | _, _ => flag cur c
  | .simple 20 => pure false
  | .simple 21 => pure true
  | .simple 22 | .simple 23 => pure cur
  | i => refuse "bool" "" i

/-- Bytes into a byte-slice field: a byte string, an array of bytes, or the
bytes of a big number. -/
def binary (cur : List UInt8) : Item → Decoded (List UInt8)
  | .tagged 55799 c => binary cur c
  | .tagged n c => do
    checkTag n c
    match n, c with
    | 2, .bytes b | 3, .bytes b => pure b
    | _, _ => binary cur c
  | .bytes b => pure b
  | .simple 22 | .simple 23 => pure []
  | .array items => items.mapM fun i => (unsigned "uint8" 8 0 i).map (·.toUInt8)
  | i => refuse "[]uint8" "" i

def untag : Item → Decoded Item
  | .tagged n c => do checkTag n c; untag c
  | i => pure i

/-- Tags 55799, which only mark the data as binary items, stripped. -/
def stripMarks : Item → Item
  | .tagged 55799 c => stripMarks c
  | i => i

/-- The whole part and the nanoseconds of a finite floating-point number
of seconds, both truncated toward zero. -/
def splitSeconds (neg : Bool) (m : Nat) (q : Int) : Int × Int :=
  let (whole, num, den) := if 0 ≤ q then (m * Nat.pow 2 q.toNat, 0, 1)
    else (m / Nat.pow 2 (-q).toNat, m % Nat.pow 2 (-q).toNat, Nat.pow 2 (-q).toNat)
  let nanos : Int := match Ieee.double.classify (Ieee.double.round neg (num * 1000000000) den) with
    | .finite _ m' q' => if 0 ≤ q' then (m' * Nat.pow 2 q'.toNat : Nat) else (m' / Nat.pow 2 (-q').toNat : Nat)
    | _ => 0
  let whole : Int := if whole > maxInt64 then -Int.pow 2 63 else whole
  if neg then (-whole, -nanos) else (whole, nanos)

/-- A time: RFC 3339 text, or seconds since 1970 as an integer or a
floating-point number; NaN and infinities are the zero instant. -/
def time (cur : Timestamp) (item : Item) : Decoded Timestamp := do
  let i := stripMarks item
  if i.isNil then return cur
  match ← untag i with
  | .simple 22 | .simple 23 => pure cur
  | .text b =>
    let s ← checkedText b
    match Timestamp.read s with
    | .ok t => pure t
    | .error r => throw (.badTime s r)
  | .unsigned v =>
    if v ≤ maxInt64 then pure (Timestamp.ofUnix v 0)
    else throw (.mismatch "positive integer" "time.Time" "" s!"{v} overflows Go's int64")
  | .negative v =>
    if v ≤ maxInt64 then pure (Timestamp.ofUnix (-1 - (v : Int)) 0)
    else throw (.mismatch "negative integer" "time.Time" "" s!"-{v + 1} overflows Go's int64")
  | .float f bits =>
    match f.classify bits with
    | .finite neg m q =>
      let (s, ns) := splitSeconds neg m q
      pure (Timestamp.ofUnix s ns)
    | _ => pure Timestamp.zero
  | i => throw (.mismatch i.major.name "time.Time" "" "")

def Failure.within (record : String) (key : Nat) : Failure → Failure
  | .mismatch f t _ d => .mismatch f t (record ++ "." ++ toString key) d
  | e => e

/-- The fields of a record from map entries, in order: keys are numbers or
their decimal text, unknown keys are skipped and repeated keys keep their
first value. -/
def fields {σ : Type} (record : String) (keys : List Nat) (assign : σ → Nat → Item → Decoded σ)
    (init : σ) (entries : List (Item × Item)) : Decoded σ := do
  let mut s := init
  let mut seen : List Nat := []
  for (k, v) in entries do
    let key? : Option Nat ← match k with
      | .text b => do
        let t ← checkedText b
        pure (keys.find? fun n => toString n == t)
      | .unsigned n => pure (if keys.contains n then some n else none)
      | .negative n =>
        if n > maxInt64 then throw (.mismatch "negative integer" "int64" "" s!"-1-{n} overflows Go's int64")
        else pure none
      | other =>
        throw (.mismatch other.major.name "string" ""
          ("map key is of type " ++ other.major.name ++ " and cannot be used to match struct field name"))
    if let some n := key? then
      if !seen.contains n then
        seen := n :: seen
        s ← (assign s n v).mapError (Failure.within record n)
  pure s

/-- A record: a map whose keys name fields; null leaves it as it was. -/
def record {σ : Type} (name : String) (keys : List Nat) (assign : σ → Nat → Item → Decoded σ)
    (init : σ) : Item → Decoded σ
  | .tagged 55799 c => record name keys assign init c
  | .tagged n c => do
    checkTag n c
    match n, c with
    | 2, .bytes b | 3, .bytes b => refuseBignum name (bignum n b)
    | _, _ => record name keys assign init c
  | .map entries => fields name keys assign init entries
  | .array _ => throw (.mismatch "array" name "" "cannot decode CBOR array to struct without toarray option")
  | .simple 22 | .simple 23 => pure init
  | i => refuse name "" i

/-- An optional record: null is no record, anything else is decoded into a
fresh one. -/
def optional {σ : Type} (name : String) (keys : List Nat) (assign : σ → Nat → Item → Decoded σ)
    (fresh : σ) (item : Item) : Decoded (Option σ) :=
  if item.isNil then pure none else some <$> record name keys assign fresh item

end Cbor

namespace CommandEvent

def toItem (c : CommandEvent) : Cbor.Item :=
  .map ([(.unsigned 1, .unsigned c.id.value)] ++
    (if c.name.isEmpty then [] else [(.unsigned 2, .text (Utf8.encode c.name))]) ++
    [(.unsigned 3, Cbor.int c.size)] ++
    (if c.payload.isEmpty then [] else [(.unsigned 4, .bytes c.payload)]) ++
    (if c.truncated then [(.unsigned 5, Cbor.bool true)] else []) ++
    (if c.buffer.code = 0 then [] else [(.unsigned 6, .unsigned c.buffer.code.toNat)]) ++
    (if c.text.isEmpty then [] else [(.unsigned 7, .text c.text)]))

def assign (c : CommandEvent) : Nat → Cbor.Item → Cbor.Decoded CommandEvent
  | 1, i => return { c with id := Identity.ofValue (← Cbor.unsigned "desc.ID" 32 c.id.value i) }
  | 2, i => return { c with name := ← Cbor.text c.name i }
  | 3, i => return { c with size := ← Cbor.signed "int" c.size i }
  | 4, i => return { c with payload := ← Cbor.binary c.payload i }
  | 5, i => return { c with truncated := ← Cbor.flag c.truncated i }
  | 6, i => return { c with buffer := Delivery.ofCode (← Cbor.unsigned "desc.BufferType" 8 c.buffer.code.toNat i).toUInt8 }
  | 7, i => return { c with text := Utf8.encode (← Cbor.text (String.ofList (Utf8.chars c.text)) i) }
  | _, _ => pure c

end CommandEvent

namespace StatusEvent

def toItem (s : StatusEvent) : Cbor.Item :=
  .map ([(.unsigned 1, .unsigned s.id.value)] ++
    (if s.name.isEmpty then [] else [(.unsigned 2, .text (Utf8.encode s.name))]) ++
    [(.unsigned 3, .text (Utf8.encode s.status))] ++
    (if s.done then [(.unsigned 4, Cbor.bool true)] else []))

def assign (s : StatusEvent) : Nat → Cbor.Item → Cbor.Decoded StatusEvent
  | 1, i => return { s with id := Identity.ofValue (← Cbor.unsigned "desc.ID" 32 s.id.value i) }
  | 2, i => return { s with name := ← Cbor.text s.name i }
  | 3, i => return { s with status := ← Cbor.text s.status i }
  | 4, i => return { s with done := ← Cbor.flag s.done i }
  | _, _ => pure s

end StatusEvent

namespace ErrorEvent

def toItem (e : ErrorEvent) : Cbor.Item :=
  .map ([(.unsigned 1, .unsigned e.layer.code.toNat), (.unsigned 2, .text (Utf8.encode e.message))] ++
    (if e.command.isEmpty then [] else [(.unsigned 3, .text (Utf8.encode e.command))]) ++
    (if e.context.isEmpty then [] else [(.unsigned 4, .text (Utf8.encode e.context))]))

def assign (e : ErrorEvent) : Nat → Cbor.Item → Cbor.Decoded ErrorEvent
  | 1, i => return { e with layer := ⟨(← Cbor.unsigned "log.Layer" 8 e.layer.code.toNat i).toUInt8⟩ }
  | 2, i => return { e with message := ← Cbor.text e.message i }
  | 3, i => return { e with command := ← Cbor.text e.command i }
  | 4, i => return { e with context := ← Cbor.text e.context i }
  | _, _ => pure e

end ErrorEvent

namespace Event

def toItem (e : Event) : Cbor.Item :=
  .map ([(.unsigned 1, if e.time.isZero then Cbor.null else .text (Utf8.encode e.time.text)),
      (.unsigned 2, .text (Utf8.encode e.session)),
      (.unsigned 3, .unsigned e.direction.code.toNat), (.unsigned 4, .unsigned e.layer.code.toNat),
      (.unsigned 5, .unsigned e.category.code.toNat)] ++
    (e.command.map fun c => [(.unsigned 6, c.toItem)]).getD [] ++
    (e.status.map fun s => [(.unsigned 7, s.toItem)]).getD [] ++
    (e.error.map fun r => [(.unsigned 8, r.toItem)]).getD [])

def encode (e : Event) : List UInt8 := e.toItem.encode

def assign (e : Event) : Nat → Cbor.Item → Cbor.Decoded Event
  | 1, i => return { e with time := ← Cbor.time e.time i }
  | 2, i => return { e with session := ← Cbor.text e.session i }
  | 3, i => return { e with direction := ⟨(← Cbor.unsigned "log.Direction" 8 e.direction.code.toNat i).toUInt8⟩ }
  | 4, i => return { e with layer := ⟨(← Cbor.unsigned "log.Layer" 8 e.layer.code.toNat i).toUInt8⟩ }
  | 5, i => return { e with category := ⟨(← Cbor.unsigned "log.Category" 8 e.category.code.toNat i).toUInt8⟩ }
  | 6, i => do
    let c ← Cbor.optional "log.CommandEvent" [1, 2, 3, 4, 5, 6, 7] CommandEvent.assign { id := default } i
    pure { e with command := c }
  | 7, i => do
    let s ← Cbor.optional "log.SendStatusEvent" [1, 2, 3, 4] StatusEvent.assign { id := default } i
    pure { e with status := s }
  | 8, i => do
    let r ← Cbor.optional "log.ErrorEventData" [1, 2, 3, 4] ErrorEvent.assign
      { layer := ⟨0⟩, message := "" } i
    pure { e with error := r }
  | _, _ => pure e

def ofItem (i : Cbor.Item) : Cbor.Decoded Event :=
  Cbor.record "log.Event" [1, 2, 3, 4, 5, 6, 7, 8] assign {} i

def decode (bs : List UInt8) : Cbor.Decoded Event := do
  if bs.isEmpty then throw .empty
  match Cbor.readItem bs with
  | .error e => throw (.malformed e)
  | .ok (i, rest) =>
    if !rest.isEmpty then throw (.extraneous rest.length (bs.length - rest.length))
    ofItem i

/-- The events of a stream of items, up to its end or to the first item
that is malformed or no event, with the failure then. -/
def readStream (bs : List UInt8) : List Event × Option Cbor.Failure :=
  go bs.length bs []
where
  /-- Read events with fuel for as many as there are bytes. -/
  go : Nat → List UInt8 → List Event → List Event × Option Cbor.Failure
    | 0, _, acc => (acc.reverse, none)
    | fuel + 1, bs, acc =>
      if bs.isEmpty then (acc.reverse, none) else
      match Cbor.readItem bs with
      | .error e => (acc.reverse, some (.malformed e))
      | .ok (i, rest) =>
        match ofItem i with
        | .error e => (acc.reverse, some e)
        | .ok e => go fuel rest (e :: acc)

end Event

end DroneProtocol
