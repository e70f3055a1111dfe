import DroneProtocol.Yaml.Parser
import DroneProtocol.Text.Integer
import DroneProtocol.Text.Quoted
import DroneProtocol.Ieee.Text

/-! # Reading YAML nodes into typed records

Scalars are resolved under their tags; records are read from mappings by
field name, with `<<` merges. A value that does not fit its field is recorded
with its line and reading goes on; a few failures stop reading. -/

namespace DroneProtocol.Yaml

/-- What a scalar denotes. -/
inductive Scalar where
  | null
  | bool (b : Bool)
  | int (v : Int)
  | float (bits : Nat)
  | timestamp
  | text (s : String)
  deriving DecidableEq, Repr

/-- The tag of a resolved scalar. -/
def Scalar.tag : Scalar → String
  | .null => "!!null"
  | .bool _ => "!!bool"
  | .int _ => "!!int"
  | .float _ => "!!float"
  | .timestamp => "!!timestamp"
  | .text _ => "!!str"

def wordScalar? (s : String) : Option Scalar :=
  if ["true", "True", "TRUE"].contains s then some (.bool true)
  else if ["false", "False", "FALSE"].contains s then some (.bool false)
  else if ["", "~", "null", "Null", "NULL"].contains s then some .null
  else if [".nan", ".NaN", ".NAN"].contains s then some (.float Ieee.double.readNaN)
  else if [".inf", ".Inf", ".INF", "+.inf", "+.Inf", "+.INF"].contains s then
    some (.float (Ieee.double.pack false Ieee.double.topExp 0))
  else if ["-.inf", "-.Inf", "-.INF"].contains s then
    some (.float (Ieee.double.pack true Ieee.double.topExp 0))
  else none

/-- Whether text has the shape `[-+]?(.D+|D+(.D*)?)([eE][-+]?D+)?`. -/
def floatShaped (cs : List Char) : Bool :=
  let body := match cs with
    | '-' :: r | '+' :: r => r
    | r => r
  let whole := body.takeWhile Char.isDigit
  let rest := body.dropWhile Char.isDigit
  let (mantissaOk, rest) := match rest with
    | '.' :: r =>
      let frac := r.takeWhile Char.isDigit
      (!whole.isEmpty || !frac.isEmpty, r.dropWhile Char.isDigit)
    | r => (!whole.isEmpty, r)
  let expOk := match rest with
    | [] => true
    | e :: r =>
      let r := match r with
        | '-' :: t | '+' :: t => t
        | t => t
      (e = 'e' || e = 'E') && !r.isEmpty && r.all Char.isDigit
  mantissaOk && expOk

def shortNumber (cs : List Char) : Option (Nat × List Char) :=
  match cs with
  | a :: b :: r =>
    if a.isDigit && b.isDigit then some ((a.toNat - 48) * 10 + (b.toNat - 48), r)
    else if a.isDigit then some (a.toNat - 48, b :: r)
    else none
  | [a] => if a.isDigit then some (a.toNat - 48, []) else none
  | [] => none

def daysIn (year month : Nat) : Nat :=
  if month = 2 then
    if (year % 4 = 0 && year % 100 ≠ 0) || year % 400 = 0 then 29 else 28
  else if [4, 6, 9, 11].contains month then 30 else 31

/-- Whether text is a timestamp: a date `YYYY-M-D`, optionally followed by
`T`, `t` or a space and a time `H:M:S` with an optional fraction, and, after
`T` or `t`, a zone `Z` or `±hh:mm` (up to 24 hours and 60 minutes). The
fraction follows a point or a comma. -/
def isTimestamp (s : String) : Bool :=
  let cs := s.toList
  let year := cs.take 4
  if year.length ≠ 4 || !year.all Char.isDigit || (cs.drop 4).head? ≠ some '-' then false
  else
    let y := year.foldl (fun acc c => acc * 10 + (c.toNat - 48)) 0
    match shortNumber (cs.drop 5) with
    | some (m, '-' :: r) =>
      match shortNumber r with
      | some (d, rest) =>
        if m < 1 || m > 12 || d < 1 || d > daysIn y m then false
        else match rest with
          | [] => true
          | sep :: t => (sep = 'T' || sep = 't' || sep = ' ') && timeOk (sep ≠ ' ') t
      | none => false
    | _ => false
where
  timeOk (zoned : Bool) (cs : List Char) : Bool :=
    match shortNumber cs with
    | some (h, ':' :: r) =>
      match shortNumber r with
      | some (mi, ':' :: r) =>
        match shortNumber r with
        | some (se, r) =>
          let r := match r with
            | c :: t =>
              if (c = '.' || c = ',') && !(t.takeWhile Char.isDigit).isEmpty then t.dropWhile Char.isDigit
              else c :: t
            | [] => []
          h < 24 && mi < 60 && se < 60 &&
            (if zoned then zoneOk r else r.isEmpty)
        | none => false
      | _ => false
    | _ => false
  zoneOk (cs : List Char) : Bool :=
    match cs with
    | ['Z'] => true
    | [s, a, b, ':', c, d] =>
      (s = '+' || s = '-') && [a, b, c, d].all Char.isDigit &&
        (a.toNat - 48) * 10 + (b.toNat - 48) ≤ 24 && (c.toNat - 48) * 10 + (d.toNat - 48) ≤ 60
    | _ => false

/-- An integer in a base, with an optional sign, or a value too large for a
signed 64-bit integer but not for an unsigned one. -/
def wideInt? (base : Nat) (s : String) : Option Int :=
  match Numeral.int? base 64 s with
  | some v => some v
  | none => (Numeral.nat? base 64 s).map fun v => (v : Int)

/-- The class of a scalar's first character, which decides what it may
denote: `N` for an empty text, `S` a sign, `D` a digit, `M` the first
letter of a word, `.` a point, and a blank for text only. -/
def hint (s : String) : Char :=
  match s.toList with
  | [] => 'N'
  | c :: _ =>
    if c = '+' || c = '-' then 'S' else if c.isDigit then 'D'
    else if "yYnNtTfFoO~".toList.contains c then 'M' else if c = '.' then '.' else ' '

/-- What a scalar's text denotes under a standard tag, or under none: the
words first, then by its first character a float, a timestamp (only when
the tag allows one), an integer in any base, or a float; text otherwise. -/
def plainScalar (tag text : String) : Scalar :=
  let h := hint text
  if h = ' ' || tag = "!!str" then .text text
  else match wordScalar? text with
    | some r => r
    | none =>
      if h = '.' then
        match Ieee.double.read? text with
        | some b => .float b
        | none => .text text
      else if h = 'D' || h = 'S' then
        if (tag = "" || tag = "!!timestamp") && isTimestamp text then .timestamp
        else
          let plain := String.ofList (text.toList.filter (· ≠ '_'))
          match wideInt? 0 plain with
          | some v => .int v
          | none =>
            let fl := if floatShaped plain.toList then Ieee.double.read? plain else none
            match fl with
            | some b => .float b
            | none => prefixed plain text
      else .text text
where
  prefixed (plain text : String) : Scalar :=
    let cs := plain.toList
    let found : Option Int := match cs with
      | '0' :: 'b' :: r => wideInt? 2 (String.ofList r)
      | '-' :: '0' :: 'b' :: r => Numeral.int? 2 64 (String.ofList ('-' :: r))
      | '0' :: 'o' :: r => wideInt? 8 (String.ofList r)
      | '-' :: '0' :: 'o' :: r => Numeral.int? 8 64 (String.ofList ('-' :: r))
      | _ => none
    match found with
    | some v => .int v
    | none => .text text

def resolvable (tag : String) : Bool :=
  ["", "!!str", "!!bool", "!!int", "!!float", "!!null", "!!timestamp"].contains tag

/-- Resolve a scalar's text under a tag: the tag it resolves to and what it
denotes, or the failure when the text does not fit the tag. A tag that is
not resolved keeps the text as it is. -/
def resolve (tag text : String) : Except String (String × Scalar) :=
  if !resolvable tag then pure (tag, .text text)
  else
    let r := plainScalar tag text
    if tag = "" || tag = r.tag || tag = "!!str" then pure (r.tag, r)
    else match tag, r with
      | "!!float", .int v => pure ("!!float", .float (Ieee.double.ofDecimal (v < 0) v.natAbs 0))
      | _, _ => throw ("cannot decode " ++ r.tag ++ " `" ++ text ++ "` as a " ++ tag)

/-- The tag of a node as reading sees it: its explicit tag; else for a
quoted or block scalar `!!str`, for a plain `<<` `!!merge`, for another
plain scalar the tag it resolves to; `!!seq` and `!!map` for collections;
none for an alias. -/
def Node.goTag : Node → String
  | .scalar t st tag _ =>
    if tag ≠ "" then tag else if st ≠ .plain then "!!str" else if t = "<<" then "!!merge"
    else (plainScalar "" t).tag
  | .sequence _ tag _ => if tag ≠ "" then tag else "!!seq"
  | .mapping _ tag _ => if tag ≠ "" then tag else "!!map"
  | .alias .. => ""

/-- The text of a node: a scalar's text, an alias's name, nothing for a
collection. -/
def Node.text : Node → String
  | .scalar t _ _ _ => t
  | .alias name _ _ _ => name
  | _ => ""

/-- Whether a key asks for a merge: a scalar `<<` with no tag but `!!merge`. -/
def Node.isMerge (n : Node) : Bool :=
  match n with
  | .scalar t _ _ _ => t = "<<" && n.goTag = "!!merge"
  | _ => false

def base64Digit (c : Char) : Option Nat :=
  if 'A' ≤ c && c ≤ 'Z' then some (c.toNat - 65)
  else if 'a' ≤ c && c ≤ 'z' then some (c.toNat - 71)
  else if '0' ≤ c && c ≤ '9' then some (c.toNat + 4)
  else if c = '+' then some 62 else if c = '/' then some 63 else none

/-- The bytes of standard base64 text with its padding; line breaks are
skipped. -/
def base64Decode? (s : String) : Option (List UInt8) :=
  let cs := s.toList.filter fun c => c ≠ '\r' && c ≠ '\n'
  if cs.length % 4 ≠ 0 then none
  else
    let groups := (List.range (cs.length / 4)).map fun i => (cs.drop (4 * i)).take 4
    let last := groups.length
    let decoded := groups.zipIdx.mapM fun (g, i) =>
      match g with
      | [a, b, c, d] => do
        let va ← base64Digit a
        let vb ← base64Digit b
        let v := va * 262144 + vb * 4096
        if c = '=' then
          if d = '=' && i + 1 = last then some [(v / 65536).toUInt8] else none
        else
          let vc ← base64Digit c
          let v := v + vc * 64
          if d = '=' then
            if i + 1 = last then some [(v / 65536).toUInt8, (v / 256 % 256).toUInt8] else none
          else
            let vd ← base64Digit d
            let v := v + vd
            some [(v / 65536).toUInt8, (v / 256 % 256).toUInt8, (v % 256).toUInt8]
      | _ => none
    decoded.map List.flatten

def pairs : List Node → List (Node × Node)
  | k :: v :: rest => (k, v) :: pairs rest
  | _ => []

/-- What reading keeps: the failures found so far, how many nodes were
read and how many of them through aliases, the aliases being followed, the
keys written by the mapping a merge is going on in, and the document's
anchored nodes. -/
structure ReadState where
  failures : Array (List UInt8) := #[]
  reads : Nat := 1
  aliasReads : Nat := 0
  following : List Nat := []
  merged : Option (List String) := none
  anchored : Array Node := #[]

/-- Reading with the failures found so far; a thrown message stops reading. -/
abbrev Reading := ExceptT String (StateM ReadState)

def report (line : List UInt8) : Reading Unit :=
  modify fun s => { s with failures := s.failures.push line }

/-- Whether the reads through aliases are too large a share of all reads:
above 99% up to 400000 reads, above 10% from 4000000 reads, and in between
a share falling linearly from one to the other. -/
def tooManyAliases (aliasReads reads : Nat) : Bool :=
  if reads ≤ 400000 then 100 * aliasReads > 99 * reads
  else if reads ≥ 4000000 then 10 * aliasReads > reads
  else 360000000 * aliasReads > (356400000 - 89 * (reads - 400000)) * reads

def count : Reading Unit := do
  modify fun s =>
    let aliased := if s.following.isEmpty then s.aliasReads else s.aliasReads + 1
    { s with reads := s.reads + 1, aliasReads := aliased }
  let s ← get
  if s.aliasReads > 100 && s.reads > 1000 && tooManyAliases s.aliasReads s.reads then
    throw "document contains excessive aliasing"

/-- Read a node with a reader, an alias as the node it names. Both count as
read; an alias met again while the node it names is being read is a
failure. -/
def follow {α : Type} (read : Node → Reading α) (n : Node) : Reading α := do
  count
  match n with
  | .alias name id target _ =>
    let s ← get
    if s.following.contains id then throw ("anchor '" ++ name ++ "' value contains itself")
    set { s with following := id :: s.following }
    count
    let r ← read (s.anchored.getD target default)
    modify fun s => { s with following := s.following.erase id }
    pure r
  | _ => read n

/-- The text of a scalar as shown in a failure: at most ten bytes, longer
ones cut to seven bytes and an ellipsis. -/
def shownValue (v : String) : List UInt8 :=
  let bs := Utf8.encode v
  if bs.length > 10 then Utf8.encode " `" ++ bs.take 7 ++ Utf8.encode "...`"
  else Utf8.encode " `" ++ bs ++ Utf8.encode "`"

/-- Record that a node does not fit a type; the value is shown unless the
node's tag is that of a collection. -/
def cannot (n : Node) (into : String) : Reading Unit :=
  let tag := n.goTag
  let value := if tag = "!!seq" || tag = "!!map" then [] else shownValue n.text
  report (Utf8.encode s!"line {n.line}: cannot unmarshal {tag}" ++ value ++ Utf8.encode s!" into {into}")

/-- Check that no key of a mapping is written twice: a key repeats another
when both are of the same kind with the same text. -/
def keysUnique (entries : List Node) : Reading Bool := do
  let keys := (pairs entries).map (·.1)
  let found := keys.zipIdx.flatMap fun (a, i) =>
    (keys.drop (i + 1)).filterMap fun b => if same a b then some (a, b) else none
  for (a, b) in found do
    report (Utf8.encode s!"line {b.line}: mapping key {Quoted.ofString b.text} already defined at line {a.line}")
  pure found.isEmpty
where
  same : Node → Node → Bool
    | .scalar a _ _ _, .scalar b _ _ _ => a == b
    | .sequence .., .sequence .. => true
    | .mapping .., .mapping .. => true
    | .alias a _ _ _, .alias b _ _ _ => a == b
    | _, _ => false

/-- What a scalar denotes when read: text for a node tagged `!!str`, else
its text resolved under its tag, a `!!binary` text decoded. -/
def scalarValue (n : Node) : Reading Scalar := do
  let tag := n.goTag
  if tag = "!!str" then return .text n.text
  match resolve tag n.text with
  | .error e => throw e
  | .ok (rtag, r) =>
    if rtag = "!!binary" then
      match base64Decode? n.text with
      | some bs => pure (.text (String.ofList (Utf8.chars bs)))
      | none => throw "!!binary value contains invalid base64 data"
    else pure r

/-- Read a node that is not a scalar into a type that is neither a record
nor a list: a mapping's keys are checked, then the failure recorded. -/
def notScalar (n : Node) (into : String) : Reading Unit := do
  match n with
  | .mapping es _ _ => if ← keysUnique es then cannot n into
  | _ => cannot n into

/-- Read a text field: any scalar but null gives its text, or the bytes a
`!!binary` text stands for. -/
def readText : Node → Reading (Option String) := follow fun n => do
  match n with
  | .scalar t _ _ _ =>
    match ← scalarValue n with
    | .null => pure none
    | .text s => pure (some s)
    | _ => pure (some t)
  | _ => do notScalar n "string"; pure none

def truncated (bits : Nat) : Option Int :=
  match Ieee.double.classify bits with
  | Ieee.Class.finite neg m q =>
    let mag : Nat := if q ≥ 0 then m * Nat.pow 2 q.toNat else m / Nat.pow 2 (-q).toNat
    some (if neg then -(mag : Int) else mag)
  | _ => none

/-- Read an integer field of the range `[lo, hi]` named `into`: integers in
range and floats whose truncation is in range fit. -/
def readInt (lo hi : Int) (into : String) : Node → Reading (Option Int) := follow fun n => do
  match n with
  | .scalar .. =>
    let fits (v : Int) : Reading (Option Int) :=
      if lo ≤ v && v ≤ hi then pure (some v) else do cannot n into; pure none
    match ← scalarValue n with
    | .null => pure none
    | .int v => fits v
    | .float b =>
      match truncated b with
      | some v => fits v
      | none => do cannot n into; pure none
    | _ => do cannot n into; pure none
  | _ => do notScalar n into; pure none

/-- Read a boolean field: booleans, and texts that are the words y, yes, on
and n, no, off in their usual capitalisations. -/
def readBool : Node → Reading (Option Bool) := follow fun n => do
  match n with
  | .scalar .. =>
    match ← scalarValue n with
    | .null => pure none
    | .bool b => pure (some b)
    | .text t =>
      if ["y", "Y", "yes", "Yes", "YES", "on", "On", "ON"].contains t then pure (some true)
      else if ["n", "N", "no", "No", "NO", "off", "Off", "OFF"].contains t then pure (some false)
      else do cannot n "bool"; pure none
    | _ => do cannot n "bool"; pure none
  | _ => do notScalar n "bool"; pure none

/-- Read a sequence field whose items are read by `item`; null reads as
empty, failed and null items are left out. -/
def readList {α : Type} (into : String) (item : Node → Reading (Option α)) :
    Node → Reading (Option (List α)) := follow fun n => do
  match n with
  | .sequence items _ _ => do
    let mut out := #[]
    for it in items do
      if let some v ← item it then out := out.push v
    pure (some out.toList)
  | .scalar .. =>
    match ← scalarValue n with
    | .null => pure (some [])
    | _ => do cannot n into; pure none
  | _ => do notScalar n into; pure none

/-- Read a node as a value of no particular type, for what reading it costs
and the failures it finds; the text it gives when it is text (a timestamp
stays text). The fuel bounds the depth. -/
def readAny : Nat → Node → Reading (Option String)
  | 0, _ => throw "document nesting exceeds its text"
  | fuel + 1, n => follow (fun n => do
      match n with
      | .scalar t _ _ _ =>
        match ← scalarValue n with
        | .text s => pure (some s)
        | .timestamp => pure (some t)
        | _ => pure none
      | .sequence items _ _ => do
        for it in items do
          let _ ← readAny fuel it
        pure none
      | .mapping es _ _ => do
        if ← keysUnique es then
          for (k, v) in pairs es do
            let _ ← readAny fuel k
            let _ ← readAny fuel v
        pure none
      | .alias .. => pure none) n

/-- A record type: its name in failures, and the reader of each field by
name; a field reader updates the record. -/
structure RecordType (β : Type) where
  name : String
  field : String → Option (Node → β → Reading β)

def isMapping (anchored : Array Node) : Node → Bool
  | .mapping .. => true
  | .alias _ _ target _ =>
    match anchored.getD target default with
    | .mapping .. => true
    | _ => false
  | _ => false

def wantMap {α : Type} : Reading α := throw "map merge requires map or sequence of maps as the value"

mutual

/-- Read a mapping's entries into a record: the fields its keys name, then
the last `<<` key's merge. A field set twice in one mapping is a failure.
While a merge is going on, a key some mapping of it already wrote is passed
over, and every other key is noted. -/
def entriesInto {β : Type} (ty : RecordType β) : Nat → List Node → β → Reading β
  | 0, _, _ => throw "document nesting exceeds its text"
  | f + 1, es, r0 => do
    let outer := (← get).merged
    modify fun s => { s with merged := none }
    let mut noted := outer
    let mut r := r0
    let mut done : List String := []
    let mut merge : Option Node := none
    for (k, v) in pairs es do
      if k.isMerge then
        merge := some v
      else
        match ← readText k with
        | none => pure ()
        | some name =>
          let passed := match noted with
            | some keys => keys.contains name
            | none => false
          if !passed then
            noted := noted.map (name :: ·)
            match ty.field name with
            | some read =>
              if done.contains name then
                report (Utf8.encode s!"line {k.line}: field {name} already set in type {ty.name}")
              else
                done := name :: done
                r ← read v r
            | none => pure ()
    modify fun s => { s with merged := noted }
    match merge with
    | some m => mergeInto ty f es m r
    | none => pure r

def recordInto {β : Type} (ty : RecordType β) : Nat → Node → β → Reading β
  | 0, _, _ => throw "document nesting exceeds its text"
  | f + 1, n, r => follow (fun n => do
      match n with
      | .mapping es _ _ => if ← keysUnique es then entriesInto ty f es r else pure r
      | _ => pure r) n

/-- Merge the mapping or mappings a `<<` key holds into a record. Unless a
merge is already going on, the keys of the mapping the `<<` key stands in
are noted first, so that merged values do not replace them. -/
def mergeInto {β : Type} (ty : RecordType β) : Nat → List Node → Node → β → Reading β
  | 0, _, _, _ => throw "document nesting exceeds its text"
  | f + 1, parent, m, r0 => do
    let saved := (← get).merged
    if saved.isNone then
      modify fun s => { s with merged := some [] }
      for (k, _) in pairs parent do
        if let some t ← readAny f k then
          modify fun s => { s with merged := s.merged.map (t :: ·) }
    let anchored := (← get).anchored
    let r ← match m with
      | .mapping .. | .alias .. =>
        if isMapping anchored m then recordInto ty f m r0 else wantMap
      | .sequence items _ _ => do
        let mut r := r0
        for it in items do
          if !isMapping anchored it then wantMap
          r ← recordInto ty f it r
        pure r
      | _ => wantMap
    if saved.isNone then modify fun s => { s with merged := none }
    pure r

end

/-- Read a record from a mapping; null reads as none, and anything else but
a mapping is a failure. The fuel bounds the depth of merges. -/
def readRecord {β : Type} (ty : RecordType β) (init : β) (fuel : Nat) : Node → Reading (Option β) :=
  follow fun n => do
    match n with
    | .mapping es _ _ => if ← keysUnique es then some <$> entriesInto ty fuel es init else pure none
    | .scalar .. =>
      match ← scalarValue n with
      | .null => pure none
      | _ => do cannot n ty.name; pure none
    | _ => do cannot n ty.name; pure none

def setWith {α β : Type} (read : Node → Reading (Option α)) (set : β → α → β) :
    Node → β → Reading β := fun n r => do
  match ← read n with
  | some v => pure (set r v)
  | none => pure r

/-- Read a document's root with a reader: the value, or the message of the
failure that stopped reading, and the failures recorded. Reading the
document counts as reading one node. -/
def readRoot {α : Type} (doc : Document) (read : Node → Reading (Option α)) :
    Except String (Option α) × Array (List UInt8) :=
  let (r, s) := (read doc.root).run.run { anchored := doc.anchored }
  (r, s.failures)

end DroneProtocol.Yaml
