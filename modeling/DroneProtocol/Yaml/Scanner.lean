import DroneProtocol.Yaml.Token
import DroneProtocol.Bytes.Utf8

/-! # Scanning YAML into tokens

Block structure comes from indentation, and a possible simple key becomes a
key when a `:` follows on its line. Text is checked in chunks of 512 bytes as
the scanner looks into them. -/

namespace DroneProtocol.Yaml

/-- A scalar that may still turn out to be a mapping key. -/
structure SimpleKey where
  possible : Bool := false
  required : Bool := false
  number : Nat := 0
  mark : Mark := {}
  deriving Repr, Inhabited

/-- The state of the scanner. -/
structure Scanner where
  input : Array Char
  mark : Mark := {}
  queue : List Token := []
  taken : Nat := 0
  started : Bool := false
  indent : Int := -1
  indents : List Int := []
  keyAllowed : Bool := false
  keys : List SimpleKey := []
  flowLevel : Nat := 0
  /-- How many characters have been read and checked. -/
  decoded : Nat := 0
  /-- The chunks not read yet: where each ends, and whether it holds a
  character that is not allowed. -/
  chunks : List (Nat × Bool) := []
  deriving Repr, Inhabited

abbrev ScanM := StateT Scanner (Except Error)

def isBlank (c : Char) : Bool := c = ' ' || c = '\t'

def isBreak (c : Char) : Bool :=
  c = '\r' || c = '\n' || c = '\x85' || c = '\u2028' || c = '\u2029'

def isEnd (c : Char) : Bool := c = '\x00'

def isBreakOrEnd (c : Char) : Bool := isBreak c || isEnd c

def isBlankOrEnd (c : Char) : Bool := isBlank c || isBreakOrEnd c

namespace Scanner

def load (i : Nat) : List (Nat × Bool) → ScanM Unit
  | [] => modify fun s => { s with chunks := [] }
  | (stop, bad) :: rest => do
    if bad then throw (.reader "control characters are not allowed")
    modify fun s => { s with decoded := stop, chunks := rest }
    if stop ≤ i then load i rest

/-- The character `k` places ahead, NUL past the end. -/
def ahead (k : Nat) : ScanM Char := do
  let s ← get
  let i := s.mark.index + k
  if s.decoded ≤ i && !s.chunks.isEmpty then load i s.chunks
  pure ((s.input[i]?).getD '\x00')

def here : ScanM Mark := do pure (← get).mark

def budget : ScanM Nat := do
  let s ← get
  pure (s.input.size - s.mark.index + 2)

def skip : ScanM Unit := modify fun s =>
  { s with mark := { s.mark with index := s.mark.index + 1, column := s.mark.column + 1 } }

def newline (width : Nat) : ScanM Unit := modify fun s =>
  { s with mark := { index := s.mark.index + width, line := s.mark.line + 1, column := 0 } }

def skipLine : ScanM Unit := do
  let c0 ← ahead 0
  let c1 ← ahead 1
  if c0 = '\r' && c1 = '\n' then newline 2
  else if isBreak c0 then newline 1

def readChar (buf : String) : ScanM String := do
  let c ← ahead 0
  skip
  pure (buf.push c)

/-- Move past a line break, keeping it as a newline (line and paragraph
separators are kept as they are). -/
def readLine (buf : String) : ScanM String := do
  let c0 ← ahead 0
  let c1 ← ahead 1
  if c0 = '\r' && c1 = '\n' then newline 2; pure (buf.push '\n')
  else if c0 = '\r' || c0 = '\n' || c0 = '\x85' then newline 1; pure (buf.push '\n')
  else if c0 = '\u2028' || c0 = '\u2029' then newline 1; pure (buf.push c0)
  else pure buf

def fail {α : Type} (context : String) (contextMark : Mark) (problem : String) : ScanM α := do
  throw (.scanner context contextMark problem (← here))

def skipWhile (p : Char → Bool) : ScanM Unit := do
  let n ← budget
  go n
where
  go : Nat → ScanM Unit
    | 0 => pure ()
    | n + 1 => do if p (← ahead 0) then skip; go n

def readWhile (p : Char → Bool) (buf : String) : ScanM String := do
  let n ← budget
  go n buf
where
  go : Nat → String → ScanM String
    | 0, b => pure b
    | n + 1, b => do if p (← ahead 0) then go n (← readChar b) else pure b

def push (t : Tok) (start stop : Mark) : ScanM Unit :=
  modify fun s => { s with queue := s.queue ++ [⟨t, start, stop⟩] }

def insertAt (i : Nat) (t : Tok) (start stop : Mark) : ScanM Unit :=
  modify fun s => { s with queue := s.queue.insertIdx i ⟨t, start, stop⟩ }

def topKey : ScanM SimpleKey := do pure ((← get).keys.headD {})

def setTopKey (k : SimpleKey) : ScanM Unit := modify fun s =>
  { s with keys := match s.keys with
    | [] => [k]
    | _ :: rest => k :: rest }

def keyValid (k : SimpleKey) : ScanM (Bool × SimpleKey) := do
  if !k.possible then return (false, k)
  let m ← here
  if k.mark.line < m.line || k.mark.index + 1024 < m.index then
    if k.required then fail "while scanning a simple key" k.mark "could not find expected ':'"
    return (false, { k with possible := false })
  return (true, k)

def removeKey : ScanM Unit := do
  let k ← topKey
  if k.possible then
    if k.required then fail "while scanning a simple key" k.mark "could not find expected ':'"
    setTopKey { k with possible := false }

def saveKey : ScanM Unit := do
  let s ← get
  if s.keyAllowed then
    let required := s.flowLevel == 0 && s.indent == (s.mark.column : Int)
    let k : SimpleKey :=
      { possible := true, required, number := s.taken + s.queue.length, mark := s.mark }
    removeKey
    setTopKey k

def rollIndent (column : Int) (number : Option Nat) (t : Tok) (m : Mark) : ScanM Unit := do
  let s ← get
  if s.flowLevel > 0 then return
  if s.indent < column then
    set { s with indents := s.indent :: s.indents, indent := column }
    match number with
    | some n => insertAt (n - s.taken) t m m
    | none => push t m m

def unrollIndent (column : Int) (scanMark : Mark) : ScanM Unit := do
  let s ← get
  if s.flowLevel > 0 then return
  let blockMark := { scanMark with index := scanMark.index - 1 }
  go blockMark (s.indents.length + 1)
where
  go (blockMark : Mark) : Nat → ScanM Unit
    | 0 => pure ()
    | n + 1 => do
      let s ← get
      if s.indent > column then
        push .blockEnd blockMark blockMark
        modify fun s => { s with indent := s.indents.headD (-1), indents := s.indents.tail }
        go blockMark n

/-- Move past blanks, comments and line breaks up to the next token; a line
break in block context allows a simple key again. -/
def toNextToken : ScanM Unit := do
  let n ← budget
  go n
where
  go : Nat → ScanM Unit
    | 0 => pure ()
    | n + 1 => do
      let s ← get
      if s.mark.column = 0 && (← ahead 0) = '\uFEFF' then skip
      let tabs := s.flowLevel > 0 || !s.keyAllowed
      skipWhile fun c => c = ' ' || (tabs && c = '\t')
      if (← ahead 0) = '#' then skipWhile fun c => !isBreakOrEnd c
      if isBreak (← ahead 0) then
        skipLine
        if (← get).flowLevel = 0 then modify fun s => { s with keyAllowed := true }
        go n

def fetchStreamStart : ScanM Unit := do
  modify fun s => { s with indent := -1, keys := [{}], keyAllowed := true, started := true }
  let m ← here
  push .streamStart m m

def fetchStreamEnd : ScanM Unit := do
  let s ← get
  if s.mark.column ≠ 0 then
    set { s with mark := { s.mark with column := 0, line := s.mark.line + 1 } }
  unrollIndent (-1) (← here)
  removeKey
  modify fun s => { s with keyAllowed := false }
  let m ← here
  push .streamEnd m m

def fetchDocumentIndicator (t : Tok) : ScanM Unit := do
  unrollIndent (-1) (← here)
  removeKey
  modify fun s => { s with keyAllowed := false }
  let start ← here
  skip; skip; skip
  push t start (← here)

def fetchFlowStart (t : Tok) : ScanM Unit := do
  saveKey
  modify fun s => { s with keys := {} :: s.keys, flowLevel := s.flowLevel + 1, keyAllowed := true }
  let start ← here
  skip
  push t start (← here)

def fetchFlowEnd (t : Tok) : ScanM Unit := do
  removeKey
  modify fun s =>
    if s.flowLevel > 0 then { s with flowLevel := s.flowLevel - 1, keys := s.keys.tail, keyAllowed := false }
    else { s with keyAllowed := false }
  let start ← here
  skip
  push t start (← here)

def fetchFlowEntry : ScanM Unit := do
  removeKey
  modify fun s => { s with keyAllowed := true }
  let start ← here
  skip
  push .flowEntry start (← here)

def fetchBlockEntry : ScanM Unit := do
  let s ← get
  if s.flowLevel = 0 then
    if !s.keyAllowed then fail "" s.mark "block sequence entries are not allowed in this context"
    rollIndent s.mark.column none .blockSequenceStart s.mark
  removeKey
  modify fun s => { s with keyAllowed := true }
  let start ← here
  skip
  push .blockEntry start (← here)

def fetchKey : ScanM Unit := do
  let s ← get
  if s.flowLevel = 0 then
    if !s.keyAllowed then fail "" s.mark "mapping keys are not allowed in this context"
    rollIndent s.mark.column none .blockMappingStart s.mark
  removeKey
  modify fun s => { s with keyAllowed := s.flowLevel = 0 }
  let start ← here
  skip
  push .key start (← here)

/-- Queue a `:`; a possible simple key before it becomes a key. -/
def fetchValue : ScanM Unit := do
  let (valid, k) ← keyValid (← topKey)
  setTopKey k
  if valid then
    let s ← get
    insertAt (k.number - s.taken) .key k.mark k.mark
    rollIndent k.mark.column (some k.number) .blockMappingStart k.mark
    setTopKey { k with possible := false }
    modify fun s => { s with keyAllowed := false }
  else
    let s ← get
    if s.flowLevel = 0 then
      if !s.keyAllowed then fail "" s.mark "mapping values are not allowed in this context"
      rollIndent s.mark.column none .blockMappingStart s.mark
    modify fun s => { s with keyAllowed := s.flowLevel = 0 }
  let start ← here
  skip
  push .value start (← here)

/-- Line breaks folded the YAML way: a single newline between two pieces of
text becomes a space, further newlines are kept. -/
def fold (s leadingBreak trailingBreaks : String) : String :=
  if leadingBreak.startsWith "\n" then
    if trailingBreaks.isEmpty then s.push ' ' else s ++ trailingBreaks
  else s ++ leadingBreak ++ trailingBreaks

def atDocumentMarker : ScanM Bool := do
  let s ← get
  let c0 ← ahead 0
  let c1 ← ahead 1
  let c2 ← ahead 2
  let c3 ← ahead 3
  pure (s.mark.column = 0 && ((c0 = '-' && c1 = '-' && c2 = '-') || (c0 = '.' && c1 = '.' && c2 = '.'))
    && isBlankOrEnd c3)

/-- Consume blanks and breaks after a piece of scalar text. -/
def scanBlanks (checkTab : Bool) (startMark : Mark) (indent : Int) :
    Bool → String → String → String → ScanM (Bool × String × String × String) := fun lb ws lbr tbr => do
  let n ← budget
  go n lb ws lbr tbr
where
  go : Nat → Bool → String → String → String → ScanM (Bool × String × String × String)
    | 0, lb, ws, lbr, tbr => pure (lb, ws, lbr, tbr)
    | n + 1, lb, ws, lbr, tbr => do
      let c ← ahead 0
      if isBlank c then
        if checkTab && lb && ((← here).column : Int) < indent && c = '\t' then
          fail "while scanning a plain scalar" startMark "found a tab character that violates indentation"
        if !lb then go n lb (← readChar ws) lbr tbr
        else do skip; go n lb ws lbr tbr
      else if isBreak c then
        if !lb then go n true "" (← readLine lbr) tbr
        else go n lb ws lbr (← readLine tbr)
      else pure (lb, ws, lbr, tbr)

/-- Scan a plain scalar. -/
def scanPlain : ScanM Unit := do
  let s0 ← get
  let indent := s0.indent + 1
  let start := s0.mark
  let n ← budget
  let (text, stop, lb) ← go indent start n "" start false "" "" ""
  push (.scalar text .plain) start stop
  if lb then modify fun s => { s with keyAllowed := true }
where
  /-- Non-blank characters of one line piece. -/
  piece (n : Nat) (text : String) (stop : Mark) (lb : Bool) (ws lbr tbr : String) :
      ScanM (String × Mark × Bool × String × String × String) := do
    match n with
    | 0 => pure (text, stop, lb, ws, lbr, tbr)
    | n + 1 =>
      let c ← ahead 0
      let c1 ← ahead 1
      let flow := (← get).flowLevel > 0
      if isBlankOrEnd c then return (text, stop, lb, ws, lbr, tbr)
      if (c = ':' && isBlankOrEnd c1) ||
          (flow && (c = ',' || (c = '?' && isBlankOrEnd c1) || c = '[' || c = ']' || c = '{' || c = '}')) then
        return (text, stop, lb, ws, lbr, tbr)
      let (text, lb, ws, lbr, tbr) :=
        if lb then (fold text lbr tbr, false, ws, "", "")
        else if !ws.isEmpty then (text ++ ws, lb, "", lbr, tbr)
        else (text, lb, ws, lbr, tbr)
      let text ← readChar text
      piece n text (← here) lb ws lbr tbr
  go (indent : Int) (start : Mark) :
      Nat → String → Mark → Bool → String → String → String → ScanM (String × Mark × Bool)
    | 0, text, stop, lb, _, _, _ => pure (text, stop, lb)
    | n + 1, text, stop, lb, ws, lbr, tbr => do
      if ← atDocumentMarker then return (text, stop, lb)
      if (← ahead 0) = '#' then return (text, stop, lb)
      let m ← budget
      let (text, stop, lb, ws, lbr, tbr) ← piece m text stop lb ws lbr tbr
      let c ← ahead 0
      if !(isBlank c || isBreak c) then return (text, stop, lb)
      let (lb, ws, lbr, tbr) ← scanBlanks true start indent lb ws lbr tbr
      if (← get).flowLevel = 0 && ((← here).column : Int) < indent then return (text, stop, lb)
      go indent start n text stop lb ws lbr tbr

def hexValue (c : Char) : Option Nat :=
  if '0' ≤ c && c ≤ '9' then some (c.toNat - 48)
  else if 'a' ≤ c && c ≤ 'f' then some (c.toNat - 87)
  else if 'A' ≤ c && c ≤ 'F' then some (c.toNat - 55)
  else none

def escapeChar? (c : Char) : Option Char :=
  match c with
  | '0' => some '\x00' | 'a' => some '\x07' | 'b' => some '\x08' | 't' => some '\t'
  | '\t' => some '\t' | 'n' => some '\n' | 'v' => some '\x0b' | 'f' => some '\x0c'
  | 'r' => some '\r' | 'e' => some '\x1b' | ' ' => some ' ' | '"' => some '"'
  | '\'' => some '\'' | '\\' => some '\\' | 'N' => some '\x85' | '_' => some '\xa0'
  | 'L' => some '\u2028' | 'P' => some '\u2029' | '/' => some '/'
  | _ => none

/-- Scan a quoted scalar. -/
def scanQuoted (single : Bool) : ScanM Unit := do
  let start ← here
  skip
  let n ← budget
  let text ← go start n ""
  skip
  push (.scalar text (if single then .single else .double)) start (← here)
where
  /-- Non-blank characters; whether an escaped line break ended them. -/
  piece (start : Mark) : Nat → String → ScanM (String × Bool)
    | 0, text => pure (text, false)
    | n + 1, text => do
      let c ← ahead 0
      let c1 ← ahead 1
      if isBlankOrEnd c then return (text, false)
      if single && c = '\'' && c1 = '\'' then
        skip; skip; piece start n (text.push '\'')
      else if single && c = '\'' then return (text, false)
      else if !single && c = '"' then return (text, false)
      else if !single && c = '\\' && isBreak c1 then
        skip; skipLine; return (text, true)
      else if !single && c = '\\' then
        let width := if c1 = 'x' then 2 else if c1 = 'u' then 4 else if c1 = 'U' then 8 else 0
        if width = 0 then
          match escapeChar? c1 with
          | some e => skip; skip; piece start n (text.push e)
          | none => fail "while parsing a quoted scalar" start "found unknown escape character"
        else
          skip; skip
          let mut v := 0
          for k in List.range width do
            match hexValue (← ahead k) with
            | some d => v := v * 16 + d
            | none => fail "while parsing a quoted scalar" start "did not find expected hexdecimal number"
          if (0xD800 ≤ v && v ≤ 0xDFFF) || 0x10FFFF < v then
            fail "while parsing a quoted scalar" start "found invalid Unicode character escape code"
          for _ in List.range width do skip
          piece start n (text.push (Char.ofNat v))
      else piece start n (← readChar text)
  go (start : Mark) : Nat → String → ScanM String
    | 0, text => pure text
    | n + 1, text => do
      if ← atDocumentMarker then
        fail "while scanning a quoted scalar" start "found unexpected document indicator"
      if isEnd (← ahead 0) then
        fail "while scanning a quoted scalar" start "found unexpected end of stream"
      let m ← budget
      let (text, lb0) ← piece start m text
      let c ← ahead 0
      if (single && c = '\'') || (!single && c = '"') then return text
      let (lb, ws, lbr, tbr) ← scanBlanks false start 0 lb0 "" "" ""
      let text := if lb then fold text lbr tbr else text ++ ws
      go start n text

/-- Scan a literal (`|`) or folded (`>`) block scalar. -/
def scanBlock (literal : Bool) : ScanM Unit := do
  let start ← here
  skip
  let mut chomping : Int := 0
  let mut increment : Nat := 0
  let c ← ahead 0
  if c = '+' || c = '-' then
    chomping := if c = '+' then 1 else -1
    skip
    let d ← ahead 0
    if d.isDigit then
      if d = '0' then fail "while scanning a block scalar" start "found an indentation indicator equal to 0"
      increment := d.toNat - 48
      skip
  else if c.isDigit then
    if c = '0' then fail "while scanning a block scalar" start "found an indentation indicator equal to 0"
    increment := c.toNat - 48
    skip
    let d ← ahead 0
    if d = '+' || d = '-' then
      chomping := if d = '+' then 1 else -1
      skip
  skipWhile isBlank
  if (← ahead 0) = '#' then skipWhile fun c => !isBreakOrEnd c
  if !isBreakOrEnd (← ahead 0) then
    fail "while scanning a block scalar" start "did not find expected comment or line break"
  if isBreak (← ahead 0) then skipLine
  let parentIndent := (← get).indent
  let mut indent : Int := 0
  if increment > 0 then
    indent := if parentIndent ≥ 0 then parentIndent + increment else increment
  let (ind, tbr) ← breaks start parentIndent indent ""
  indent := ind
  let mut trailing := tbr
  let mut text := ""
  let mut leadingBreak := ""
  let mut leadingBlank := false
  let n ← budget
  for _ in List.range n do
    if ((← here).column : Int) ≠ indent || isEnd (← ahead 0) then break
    let trailingBlank := isBlank (← ahead 0)
    if !literal && !leadingBlank && !trailingBlank && leadingBreak.startsWith "\n" then
      if trailing.isEmpty then text := text.push ' '
    else text := text ++ leadingBreak
    leadingBreak := ""
    text := text ++ trailing
    trailing := ""
    leadingBlank := isBlank (← ahead 0)
    text ← readWhile (fun c => !isBreakOrEnd c) text
    leadingBreak ← readLine leadingBreak
    let (ind, tbr) ← breaks start parentIndent indent ""
    indent := ind
    trailing := tbr
  if chomping ≠ -1 then text := text ++ leadingBreak
  if chomping = 1 then text := text ++ trailing
  push (.scalar text (if literal then .literal else .folded)) start (← here)
where
  /-- Indentation spaces and empty lines; fixes the indentation if not yet known. -/
  breaks (start : Mark) (parentIndent : Int) (indent0 : Int) (buf0 : String) :
      ScanM (Int × String) := do
    let mut indent := indent0
    let mut buf := buf0
    let mut maxIndent : Nat := 0
    let n ← budget
    for _ in List.range n do
      let n2 ← budget
      for _ in List.range n2 do
        if (indent = 0 || ((← here).column : Int) < indent) && (← ahead 0) = ' ' then skip else break
      if (← here).column > maxIndent then maxIndent := (← here).column
      if (indent = 0 || ((← here).column : Int) < indent) && (← ahead 0) = '\t' then
        fail "while scanning a block scalar" start "found a tab character where an indentation space is expected"
      if !isBreak (← ahead 0) then break
      buf ← readLine buf
    if indent = 0 then
      indent := maxIndent
      if indent < parentIndent + 1 then indent := parentIndent + 1
      if indent < 1 then indent := 1
    pure (indent, buf)

/-- A letter, digit, underscore or hyphen: the characters of directive
names, anchors and tag handles. -/
def isAlpha (c : Char) : Bool := c.isAlphanum || c = '_' || c = '-'

def isHex (c : Char) : Bool := (hexValue c).isSome

def tagContext (directive : Bool) : String :=
  if directive then "while parsing a %TAG directive" else "while parsing a tag"

/-- The number of bytes of a UTF-8 sequence given its first byte; zero for a
byte that cannot start one. -/
def utf8Width (b : Nat) : Nat :=
  if b < 0x80 then 1 else if b / 32 = 6 then 2 else if b / 16 = 14 then 3 else if b / 8 = 30 then 4 else 0

/-- Read `%XX` escapes that spell one UTF-8 character, appending it. -/
def uriEscapes (directive : Bool) (start : Mark) (buf : String) : ScanM String := do
  let mut octets : List UInt8 := []
  let mut want := 0
  for _ in List.range 4 do
    let c0 ← ahead 0
    let c1 ← ahead 1
    let c2 ← ahead 2
    match hexValue c1, hexValue c2 with
    | some h, some l =>
      if c0 != '%' then fail (tagContext directive) start "did not find URI escaped octet"
      let octet := h * 16 + l
      if octets.isEmpty then
        want := utf8Width octet
        if want = 0 then fail (tagContext directive) start "found an incorrect leading UTF-8 octet"
      else if octet / 64 != 2 then
        fail (tagContext directive) start "found an incorrect trailing UTF-8 octet"
      octets := octets ++ [octet.toUInt8]
      skip; skip; skip
      if octets.length = want then break
    | _, _ => fail (tagContext directive) start "did not find URI escaped octet"
  pure (buf ++ String.ofList (Utf8.chars octets))

/-- Read the URI of a tag, after the text `head` already read as a handle
(its leading `!` left out). Inside `!<…>`, commas and brackets belong to the
URI too. -/
def tagUri (uriChar directive : Bool) (head : String) (start : Mark) : ScanM String := do
  let n ← budget
  let (s, found) ← go n (if head.length > 1 then (head.drop 1).toString else "") (head.length > 0)
  if !found then fail (tagContext directive) start "did not find expected tag URI"
  pure s
where
  go : Nat → String → Bool → ScanM (String × Bool)
    | 0, s, found => pure (s, found)
    | n + 1, s, found => do
      let c ← ahead 0
      if isAlpha c || ";/?:@&=+$.%!~*\x27()".toList.contains c || (uriChar && ",[]".toList.contains c) then
        let s ← if c = '%' then uriEscapes directive start s else readChar s
        go n s true
      else pure (s, found)

/-- Read a tag handle: `!`, then letters and digits, then `!` if present. In
a `%TAG` directive the handle must end with `!` unless it is `!` alone. -/
def tagHandle (directive : Bool) (start : Mark) : ScanM String := do
  if (← ahead 0) != '!' then fail (tagContext directive) start "did not find expected '!'"
  let s ← readChar ""
  let s ← readWhile isAlpha s
  if (← ahead 0) = '!' then readChar s
  else if directive && s != "!" then fail (tagContext directive) start "did not find expected '!'"
  else pure s

def versionNumber (start : Mark) : ScanM Nat := do
  let mut value := 0
  let mut length := 0
  for _ in List.range 3 do
    let c ← ahead 0
    if !c.isDigit then break
    length := length + 1
    if length > 2 then fail "while scanning a %YAML directive" start "found extremely long version number"
    value := value * 10 + (c.toNat - 48)
    skip
  if length = 0 then fail "while scanning a %YAML directive" start "did not find expected version number"
  pure value

/-- Queue a `%YAML` or `%TAG` directive, which takes the rest of its line. -/
def fetchDirective : ScanM Unit := do
  unrollIndent (-1) (← here)
  removeKey
  modify fun s => { s with keyAllowed := false }
  let start ← here
  skip
  let name ← readWhile isAlpha ""
  if name.isEmpty then fail "while scanning a directive" start "could not find expected directive name"
  if !isBlankOrEnd (← ahead 0) then
    fail "while scanning a directive" start "found unexpected non-alphabetical character"
  let tok ← if name = "YAML" then do
      skipWhile isBlank
      let major ← versionNumber start
      if (← ahead 0) != '.' then
        fail "while scanning a %YAML directive" start "did not find expected digit or '.' character"
      skip
      let minor ← versionNumber start
      pure (Tok.versionDirective major minor)
    else if name = "TAG" then do
      skipWhile isBlank
      let handle ← tagHandle true start
      if !isBlank (← ahead 0) then fail "while scanning a %TAG directive" start "did not find expected whitespace"
      skipWhile isBlank
      let pre ← tagUri true false "" start
      if !isBlankOrEnd (← ahead 0) then
        fail "while scanning a %TAG directive" start "did not find expected whitespace or line break"
      pure (Tok.tagDirective handle pre)
    else fail "while scanning a directive" start "found unknown directive name"
  let stop ← here
  skipWhile isBlank
  if (← ahead 0) = '#' then skipWhile fun c => !isBreakOrEnd c
  if !isBreakOrEnd (← ahead 0) then
    fail "while scanning a directive" start "did not find expected comment or line break"
  if isBreak (← ahead 0) then skipLine
  push tok start stop

def fetchAnchor (isAlias : Bool) : ScanM Unit := do
  saveKey
  modify fun s => { s with keyAllowed := false }
  let start ← here
  skip
  let name ← readWhile isAlpha ""
  let stop ← here
  let c ← ahead 0
  if name.isEmpty || !(isBlankOrEnd c || "?:,]\x7d%@".toList.contains c || c.toNat = 96) then
    fail (if isAlias then "while scanning an alias" else "while scanning an anchor") start
      "did not find expected alphabetic or numeric character"
  push (if isAlias then .alias name else .anchor name) start stop

/-- Queue a tag: `!<uri>`, `!handle!suffix`, `!suffix` or `!` alone; it may
start a simple key. -/
def fetchTag : ScanM Unit := do
  saveKey
  modify fun s => { s with keyAllowed := false }
  let start ← here
  let (handle, suffix) ← if (← ahead 1) = '<' then do
      skip; skip
      let suffix ← tagUri true false "" start
      if (← ahead 0) != '>' then fail "while scanning a tag" start "did not find the expected '>'"
      skip
      pure ("", suffix)
    else do
      let handle ← tagHandle false start
      if handle.length > 1 && handle.startsWith "!" && handle.endsWith "!" then
        pure (handle, ← tagUri false false "" start)
      else
        let suffix ← tagUri false false handle start
        pure (if suffix.isEmpty then ("", "!") else ("!", suffix))
  let c ← ahead 0
  if !isBlankOrEnd c && ((← get).flowLevel = 0 || c != ',') then
    fail "while scanning a tag" start "did not find expected whitespace or line break"
  push (.tag handle suffix) start (← here)

def startsPlain (c c1 : Char) (flow : Bool) : Bool :=
  let indicator := "-?:,[]\x7b\x7d#&*!|>\x27\"%@\x60".toList.contains c
  !(isBlankOrEnd c || indicator) || (c = '-' && !isBlank c1) ||
    (!flow && (c = '?' || c = ':') && !isBlankOrEnd c1)

/-- Scan the next token into the queue. -/
def fetchNext : ScanM Unit := do
  let _ ← ahead 0
  if !(← get).started then fetchStreamStart; return
  let scanMark ← here
  toNextToken
  let m ← here
  unrollIndent m.column scanMark
  let c ← ahead 0
  let c1 ← ahead 1
  let flow := (← get).flowLevel > 0
  if isEnd c then fetchStreamEnd; return
  if m.column = 0 && c = '%' then fetchDirective; return
  if ← atDocumentMarker then
    fetchDocumentIndicator (if c = '-' then .documentStart else .documentEnd); return
  match c with
  | '[' => fetchFlowStart .flowSequenceStart
  | '{' => fetchFlowStart .flowMappingStart
  | ']' => fetchFlowEnd .flowSequenceEnd
  | '}' => fetchFlowEnd .flowMappingEnd
  | ',' => fetchFlowEntry
  | _ =>
    if c = '-' && isBlankOrEnd c1 then fetchBlockEntry
    else if c = '?' && (flow || isBlankOrEnd c1) then fetchKey
    else if c = ':' && (flow || isBlankOrEnd c1) then fetchValue
    else if c = '*' then fetchAnchor true
    else if c = '&' then fetchAnchor false
    else if c = '!' then fetchTag
    else if (c = '|' || c = '>') && !flow then
      removeKey
      modify fun s => { s with keyAllowed := true }
      scanBlock (c = '|')
    else if c = '\'' || c = '"' then
      saveKey
      modify fun s => { s with keyAllowed := false }
      scanQuoted (c = '\'')
    else if startsPlain c c1 flow then
      saveKey
      modify fun s => { s with keyAllowed := false }
      scanPlain
    else fail "while scanning for the next token" m "found character that cannot start any token"

def fetchMore : ScanM Unit := do
  let n ← budget
  go (2 * n + 8)
where
  go : Nat → ScanM Unit
    | 0 => pure ()
    | n + 1 => do
      let s ← get
      if s.queue.length > 2 then
        match s.keys.findIdx? (fun k => k.possible && k.number == s.taken) with
        | none => return
        | some i =>
          let (valid, k) ← keyValid (s.keys.getD i {})
          modify fun s => { s with keys := s.keys.set i k }
          if !valid then return
      fetchNext
      go n

def peekToken : ScanM Token := do
  fetchMore
  match (← get).queue with
  | t :: _ => pure t
  | [] => pure ⟨.streamEnd, (← here), (← here)⟩

def takeToken : ScanM Token := do
  let t ← peekToken
  modify fun s => { s with queue := s.queue.drop 1, taken := s.taken + 1 }
  pure t

end Scanner

end DroneProtocol.Yaml
