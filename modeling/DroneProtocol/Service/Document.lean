import DroneProtocol.Service.Datum
import DroneProtocol.Text.Quoted

/-! # Reading request documents

A checking machine reads the line byte by byte and reports the first byte its
state does not allow; over an accepted line a second pass builds the
document, keeping the last of repeated keys. -/

namespace DroneProtocol.Service.Document

/-- What the checking machine expects next. -/
inductive Scan where
  /-- A value, blanks first. -/
  | beginValue
  /-- A value or the end of an empty array. -/
  | beginValueOrEmpty
  /-- A key or the end of an empty object. -/
  | beginKeyOrEmpty
  /-- A key. -/
  | beginKey
  /-- What follows a value: a separator, a closing bracket, or blanks. -/
  | endValue
  /-- Nothing but blanks: the document is complete. -/
  | endTop
  /-- More of a string. -/
  | inString
  /-- The letter after a backslash in a string. -/
  | inEscape
  /-- The hexadecimal digits of a `\u` escape, with how many remain. -/
  | inUnicode (left : Nat)
  /-- The first digit of a number after its minus sign. -/
  | neg
  /-- More digits of a whole part that starts with a non-zero digit. -/
  | one
  /-- A point or exponent after the whole part. -/
  | zero
  /-- The first digit after a point. -/
  | dot
  /-- More digits after a point. -/
  | dotDigits
  /-- The sign or first digit of an exponent. -/
  | exp
  /-- The first digit of an exponent after its sign. -/
  | expSign
  /-- More digits of an exponent. -/
  | expDigits
  /-- The remaining letters of `true`, `false` or `null`. -/
  | word (literal : String) (left : List Char)
  deriving DecidableEq, Repr

/-- What an open array or object awaits. -/
inductive Frame where
  | objectKey
  | objectValue
  | arrayValue
  deriving DecidableEq, Repr

/-- The checking machine: its state and the open arrays and objects,
innermost first. -/
structure Machine where
  scan : Scan
  stack : List Frame
  deriving DecidableEq, Repr

def maxDepth : Nat := 10000

def isBlank (c : UInt8) : Bool := c = 32 || c = 9 || c = 13 || c = 10

def isDigit (c : UInt8) : Bool := 48 ≤ c && c ≤ 57

def isHex (c : UInt8) : Bool := isDigit c || (97 ≤ c && c ≤ 102) || (65 ≤ c && c ≤ 70)

/-- A byte as it is shown in a message: between single quotes, escaped the
way a quoted string escapes the character of that code. -/
def quoteChar (c : UInt8) : String :=
  if c = 39 then "'\\''"
  else if c = 34 then "'\"'"
  else "'" ++ Quoted.escape c.toNat ++ "'"

/-- The report of a byte the machine does not allow. -/
def invalid (c : UInt8) (context : String) : String :=
  "invalid character " ++ quoteChar c ++ " " ++ context

def push (m : Machine) (c : UInt8) (f : Frame) (next : Scan) : Except String Machine :=
  if m.stack.length + 1 ≤ maxDepth then pure ⟨next, f :: m.stack⟩
  else throw (invalid c "exceeded max depth")

def afterValue (m : Machine) (c : UInt8) : Except String Machine :=
  match m.stack with
  | [] => if isBlank c then pure ⟨.endTop, []⟩ else throw (invalid c "after top-level value")
  | f :: rest =>
    if isBlank c then pure ⟨.endValue, m.stack⟩
    else match f with
      | .objectKey =>
        if c = 58 then pure ⟨.beginValue, .objectValue :: rest⟩
        else throw (invalid c "after object key")
      | .objectValue =>
        if c = 44 then pure ⟨.beginKey, .objectKey :: rest⟩
        else if c = 125 then pure ⟨if rest.isEmpty then .endTop else .endValue, rest⟩
        else throw (invalid c "after object key:value pair")
      | .arrayValue =>
        if c = 44 then pure ⟨.beginValue, m.stack⟩
        else if c = 93 then pure ⟨if rest.isEmpty then .endTop else .endValue, rest⟩
        else throw (invalid c "after array element")

def beginValue (m : Machine) (c : UInt8) : Except String Machine :=
  if isBlank c then pure m
  else if c = 123 then push m c .objectKey .beginKeyOrEmpty
  else if c = 91 then push m c .arrayValue .beginValueOrEmpty
  else if c = 34 then pure { m with scan := .inString }
  else if c = 45 then pure { m with scan := .neg }
  else if c = 48 then pure { m with scan := .zero }
  else if c = 116 then pure { m with scan := .word "true" ['r', 'u', 'e'] }
  else if c = 102 then pure { m with scan := .word "false" ['a', 'l', 's', 'e'] }
  else if c = 110 then pure { m with scan := .word "null" ['u', 'l', 'l'] }
  else if isDigit c then pure { m with scan := .one }
  else throw (invalid c "looking for beginning of value")

def beginKey (m : Machine) (c : UInt8) : Except String Machine :=
  if isBlank c then pure m
  else if c = 34 then pure { m with scan := .inString }
  else throw (invalid c "looking for beginning of object key string")

def afterWhole (m : Machine) (c : UInt8) : Except String Machine :=
  if c = 46 then pure { m with scan := .dot }
  else if c = 101 || c = 69 then pure { m with scan := .exp }
  else afterValue m c

/-- The machine after one more byte, or the report of that byte. -/
def step (m : Machine) (c : UInt8) : Except String Machine :=
  match m.scan with
  | .beginValue => beginValue m c
  | .beginValueOrEmpty =>
    if isBlank c then pure m
    else if c = 93 then afterValue m c
    else beginValue m c
  | .beginKeyOrEmpty =>
    if isBlank c then pure m
    else if c = 125 then
      match m.stack with
      | _ :: rest => afterValue ⟨m.scan, .objectValue :: rest⟩ c
      | [] => afterValue m c
    else beginKey m c
  | .beginKey => beginKey m c
  | .endValue => afterValue m c
  | .endTop => if isBlank c then pure m else throw (invalid c "after top-level value")
  | .inString =>
    if c = 34 then pure { m with scan := .endValue }
    else if c = 92 then pure { m with scan := .inEscape }
    else if c < 32 then throw (invalid c "in string literal")
    else pure m
  | .inEscape =>
    if c = 117 then pure { m with scan := .inUnicode 4 }
    else if [98, 102, 110, 114, 116, 92, 47, 34].contains c then pure { m with scan := .inString }
    else throw (invalid c "in string escape code")
  | .inUnicode left =>
    if isHex c then pure { m with scan := if left ≤ 1 then .inString else .inUnicode (left - 1) }
    else throw (invalid c "in \\u hexadecimal character escape")
  | .neg =>
    if c = 48 then pure { m with scan := .zero }
    else if isDigit c then pure { m with scan := .one }
    else throw (invalid c "in numeric literal")
  | .one => if isDigit c then pure m else afterWhole m c
  | .zero => afterWhole m c
  | .dot =>
    if isDigit c then pure { m with scan := .dotDigits }
    else throw (invalid c "after decimal point in numeric literal")
  | .dotDigits =>
    if isDigit c then pure m
    else if c = 101 || c = 69 then pure { m with scan := .exp }
    else afterValue m c
  | .exp =>
    if c = 43 || c = 45 then pure { m with scan := .expSign }
    else if isDigit c then pure { m with scan := .expDigits }
    else throw (invalid c "in exponent of numeric literal")
  | .expSign =>
    if isDigit c then pure { m with scan := .expDigits }
    else throw (invalid c "in exponent of numeric literal")
  | .expDigits => if isDigit c then pure m else afterValue m c
  | .word literal left =>
    match left with
    | [] => afterValue m c
    | l :: more =>
      if c.toNat = l.toNat then
        pure { m with scan := if more.isEmpty then .endValue else .word literal more }
      else throw (invalid c ("in literal " ++ literal ++ " (expecting " ++ quoteChar l.toNat.toUInt8 ++ ")"))

def Machine.complete (m : Machine) : Bool := m.stack.isEmpty && m.scan = .endTop

/-- The machine after every byte of a text, or the report of the first byte
it does not allow. -/
def run (m : Machine) : List UInt8 → Except String Machine
  | [] => pure m
  | c :: rest => do run (← step m c) rest

/-- The first syntax error of a text, if any. A text that ends inside a
value is completed by a blank if that completes it, as a number at the end
is. -/
def check (bs : List UInt8) : Option String :=
  match run ⟨.beginValue, []⟩ bs with
  | .error e => some e
  | .ok m =>
    if m.complete then none
    else match step m 32 with
      | .ok m' => if m'.complete then none else some "unexpected end of JSON input"
      | .error _ => some "unexpected end of JSON input"

def hexValue (ds : List UInt8) : Nat :=
  ds.foldl (fun acc d =>
    let v := if d ≤ 57 then d.toNat - 48 else if d ≤ 70 then d.toNat - 55 else d.toNat - 87
    acc * 16 + v) 0

def escaped (c : UInt8) : UInt8 :=
  if c = 98 then 8 else if c = 102 then 12 else if c = 110 then 10
  else if c = 114 then 13 else if c = 116 then 9 else c

/-- The bytes a `\u` escape stands for, given the four digits after it and
the text after them: a surrogate pair joined with a second escape that
completes it, half a pair alone as U+FFFD. Also gives the text after what
was used. -/
def unicodeEscape (digits rest : List UInt8) : List UInt8 × List UInt8 :=
  let hi := hexValue digits
  if 0xD800 ≤ hi && hi < 0xE000 then
    let second := rest.take 6
    let lo := hexValue (second.drop 2)
    if hi < 0xDC00 && second.take 2 = [92, 117] && second.length = 6 &&
        (second.drop 2).all isHex && 0xDC00 ≤ lo && lo < 0xE000 then
      (String.utf8EncodeChar (Char.ofNat (0x10000 + (hi - 0xD800) * 0x400 + (lo - 0xDC00))), rest.drop 6)
    else (String.utf8EncodeChar Utf8.replacement, rest)
  else (String.utf8EncodeChar (Char.ofNat hi), rest)

/-- The bytes of a string up to its closing quote, escapes resolved, with
the text after the quote; the fuel bounds the bytes read. -/
def stringBody : Nat → List UInt8 → List UInt8 → List UInt8 × List UInt8
  | 0, bs, acc => (acc.reverse, bs)
  | _ + 1, [], acc => (acc.reverse, [])
  | fuel + 1, c :: rest, acc =>
    if c = 34 then (acc.reverse, rest)
    else if c = 92 then
      match rest with
      | [] => (acc.reverse, [])
      | e :: more =>
        if e = 117 then
          let (bytes, after) := unicodeEscape (more.take 4) (more.drop 4)
          stringBody fuel after (bytes.reverse ++ acc)
        else stringBody fuel more (escaped e :: acc)
    else stringBody fuel rest (c :: acc)

/-- The text of UTF-8 bytes, each byte that starts no character standing for
U+FFFD. -/
def textOf (bs : List UInt8) : String := String.ofList (Utf8.chars bs)

def digitsValue (ds : List UInt8) : Nat := ds.foldl (fun acc d => acc * 10 + (d.toNat - 48)) 0

/-- A number from its text, which the machine accepted. -/
def number (text : List UInt8) : Datum :=
  let (neg, body) := match text with
    | 45 :: r => (true, r)
    | r => (false, r)
  let whole := body.takeWhile isDigit
  let rest := body.drop whole.length
  let (frac, rest) := match rest with
    | 46 :: r => (r.takeWhile isDigit, r.dropWhile isDigit)
    | r => ([], r)
  let (hasExp, e) : Bool × Int := match rest with
    | _ :: 45 :: ds => (true, -(digitsValue ds : Int))
    | _ :: 43 :: ds => (true, digitsValue ds)
    | _ :: ds => (true, digitsValue ds)
    | [] => (false, 0)
  let m := digitsValue (whole ++ frac)
  if frac.isEmpty && !hasExp && rest.isEmpty then .num (if neg then -(m : Int) else m)
  else .real neg m (e - frac.length)

def inNumber (c : UInt8) : Bool := isDigit c || c = 46 || c = 101 || c = 69 || c = 43 || c = 45

def members (fs : List (String × Datum)) : List (String × Datum) :=
  let last := fs.foldl (fun acc (k, v) => (k, v) :: acc.filter (·.1 != k)) []
  last.mergeSort fun a b => decide (a.1 ≤ b.1)

mutual

/-- The value at the front of an accepted text, with the text after it. -/
def value : Nat → List UInt8 → Datum × List UInt8
  | 0, bs => (.null, bs)
  | fuel + 1, bs =>
    match bs.dropWhile isBlank with
    | 123 :: rest => objectMembers fuel rest []
    | 91 :: rest => arrayItems fuel rest []
    | 34 :: rest => let (s, r) := stringBody rest.length rest []; (.str (textOf s), r)
    | 116 :: rest => (.bool true, rest.drop 3)
    | 102 :: rest => (.bool false, rest.drop 4)
    | 110 :: rest => (.null, rest.drop 3)
    | rest => (number (rest.takeWhile inNumber), rest.dropWhile inNumber)

def objectMembers : Nat → List UInt8 → List (String × Datum) → Datum × List UInt8
  | 0, bs, acc => (.obj (members acc.reverse), bs)
  | fuel + 1, bs, acc =>
    match bs.dropWhile isBlank with
    | 34 :: rest =>
      let (k, r) := stringBody rest.length rest []
      let r := (r.dropWhile isBlank).drop 1
      let (v, r) := value fuel r
      objectMembers fuel r ((textOf k, v) :: acc)
    | 44 :: rest => objectMembers fuel rest acc
    | rest => (.obj (members acc.reverse), rest.drop 1)

def arrayItems : Nat → List UInt8 → List Datum → Datum × List UInt8
  | 0, bs, acc => (.arr acc.reverse, bs)
  | fuel + 1, bs, acc =>
    match bs.dropWhile isBlank with
    | 93 :: rest => (.arr acc.reverse, rest)
    | 44 :: rest => arrayItems fuel rest acc
    | rest =>
      let (v, r) := value fuel rest
      arrayItems fuel r (v :: acc)

end

def read (line : String) : Except String Datum :=
  let bs := Utf8.encode line
  match check bs with
  | some e => throw e
  | none => pure (value (2 * bs.length + 2) bs).1

end DroneProtocol.Service.Document
