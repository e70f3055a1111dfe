import DroneProtocol.Text.Quoted
import DroneProtocol.Text.Unicode

/-! # Lexing TOML documents

A machine with a stack of modes emits items one character at a time, with the
rules of TOML 1.1. Lexing stops at the first error, and items emitted before
it stand, each with its line. -/

namespace DroneProtocol.Toml

/-- What an item is. -/
inductive ItemKind where
  | eof
  /-- A bare key part, or the text of a comment. -/
  | text
  /-- A basic string without escapes. -/
  | string
  /-- A basic string with escapes still to be replaced. -/
  | escapedString
  | rawString
  | multilineString
  | rawMultilineString
  | bool
  | integer
  | float
  | datetime
  | arrayStart
  | arrayEnd
  | tableStart
  | tableEnd
  | arrayTableStart
  | arrayTableEnd
  | keyStart
  | keyEnd
  | commentStart
  | inlineTableStart
  | inlineTableEnd
  deriving DecidableEq, Repr, Inhabited

/-- An item with its text and line. -/
structure Item where
  kind : ItemKind
  text : String
  line : Nat
  deriving DecidableEq, Repr, Inhabited

/-- Why lexing stopped, and on which line. -/
structure LexError where
  message : String
  line : Nat
  deriving DecidableEq, Repr, Inhabited

/-- The modes of the lexer. -/
inductive Mode where
  | top
  | topEnd
  | tableStart
  | tableEnd
  | arrayTableEnd
  | tableNameStart
  | tableNameEnd
  | bareName
  | quotedName
  | keyStart
  | keyNameStart
  | keyEnd
  | value
  | arrayValue
  | arrayValueEnd
  | arrayEnd
  | inlineValue
  | inlineValueEnd
  | inlineEnd
  | basicString
  | multilineString
  | rawString
  | multilineRawString
  | multilineEscape
  | escape
  | hexEscape
  | shortUnicode
  | longUnicode
  | numberOrDateStart
  | numberOrDate
  | datetime
  | hexInteger
  | octalInteger
  | binaryInteger
  | decimalNumber
  | signedNumberStart
  | baseNumberOrDate
  | float
  | bool
  | commentStart
  | comment
  deriving DecidableEq, Repr, Inhabited

def isBlank (c : Char) : Bool := c = ' ' || c = '\t'

def isNewline (c : Char) : Bool := c = '\n' || c = '\r'

def isHexDigit (c : Char) : Bool :=
  c.isDigit || ('a' ≤ c && c ≤ 'f') || ('A' ≤ c && c ≤ 'F')

def isBareKeyChar (c : Char) : Bool :=
  c.isAlphanum || c = '_' || c = '-'

def isControl (c : Char) : Bool :=
  c ≠ '\t' && c ≠ '\n' && c ≠ '\r' && (c.toNat < 0x20 || c.toNat = 0x7F)

/-- A character between single quotes, escaped as in messages; the end of
input shows as the NUL character. -/
def quoteRune : Option Char → String
  | none => "'\\x00'"
  | some '\'' => "'\\''"
  | some '"' => "'\"'"
  | some c => "'" ++ Quoted.escape c.toNat ++ "'"

def runeText : Option Char → String
  | none => "\x00"
  | some c => c.toString

/-- The state of the lexer. -/
structure Lexer where
  input : Array Char
  /-- Where the text of the next item starts. -/
  start : Nat := 0
  pos : Nat := 0
  /-- Whether the last read met the end of input. -/
  atEnd : Bool := false
  /-- Whether the basic string being read has an escape. -/
  escaped : Bool := false
  stack : List Mode := []
  items : Array Item := #[]
  deriving Repr, Inhabited

abbrev LexM := ExceptT LexError (StateM Lexer)

namespace Lexer

def lineAt (l : Lexer) (p : Nat) : Nat := (l.input.toList.take p).count '\n' + 1

/-- The line the lexer is on. -/
def line (l : Lexer) : Nat := l.lineAt l.pos

def next : LexM (Option Char) := do
  let l ← get
  match l.input[l.pos]? with
  | none =>
    set { l with atEnd := true }
    pure none
  | some c =>
    if isControl c || (c = '\r' && l.input[l.pos + 1]? != some '\n') then
      throw ⟨"TOML files cannot contain control characters: '0x" ++
        Quoted.hexDigits 2 c.toNat ++ "'", l.line⟩
    set { l with pos := l.pos + 1 }
    pure (some c)

def backup : LexM Unit := modify fun l =>
  if l.atEnd then { l with atEnd := false } else { l with pos := l.pos - 1 }

def peek : LexM (Option Char) := do
  let r ← next
  backup
  pure r

def accept (c : Char) : LexM Bool := do
  if (← next) = some c then pure true
  else
    backup
    pure false

def ignore : LexM Unit := modify fun l => { l with start := l.pos }

def current : LexM String := do
  let l ← get
  pure (String.ofList ((l.input.toList.drop l.start).take (l.pos - l.start)))

def emitText (k : ItemKind) (text : String) : LexM Unit := modify fun l =>
  { l with items := l.items.push ⟨k, text, l.line⟩, start := l.pos }

def emit (k : ItemKind) : LexM Unit := do emitText k (← current)

/-- Stop with an error on the current line; at the end of input right after
a line break, on the line that break ends. -/
def fail {α : Type} (msg : String) : LexM α := do
  let l ← get
  let back := l.atEnd && 1 ≤ l.pos && l.input[l.pos - 1]? = some '\n'
  throw ⟨msg, if back then l.line - 1 else l.line⟩

def failPrevLine {α : Type} (msg : String) : LexM α := do
  throw ⟨msg, (← get).line - 1⟩

/-- Stop with an error on the current line, or on the line before it at the
end of input. -/
def failHere {α : Type} (msg : String) : LexM α := do
  let l ← get
  throw ⟨msg, if l.atEnd then l.line - 1 else l.line⟩

def skipWhile (p : Char → Bool) : Nat → LexM Unit
  | 0 => pure ()
  | n + 1 => do
    match ← next with
    | some c =>
      if p c then skipWhile p n
      else
        backup
        ignore
    | none =>
      backup
      ignore

def skipBlanks : LexM Unit := do skipWhile isBlank ((← get).input.size + 1)

def letters : Nat → LexM String
  | 0 => pure ""
  | n + 1 => do
    match ← next with
    | some c =>
      if Unicode.isLetter c then pure (c.toString ++ (← letters n))
      else
        backup
        pure ""
    | none =>
      backup
      pure ""

def push (m : Mode) : LexM Unit := modify fun l => { l with stack := m :: l.stack }

def popTo : LexM (Option Mode) := do
  let l ← get
  match l.stack with
  | m :: rest =>
    set { l with stack := rest }
    pure (some m)
  | [] => pure (some .top)

def endNumber (k : ItemKind) : LexM (Option Mode) := do
  backup
  emit k
  popTo

def escapeDigits (count : Nat) (word letter : String) : LexM (Option Mode) := do
  for _ in [0:count] do
    let r ← next
    if !(r.any isHexDigit) then
      fail ("expected " ++ word ++ " hexadecimal digits after '\\" ++ letter ++
        "', but got " ++ Quoted.ofString (← current) ++ " instead")
  popTo

def digitRun (digit : Char → Bool) (self : Mode) : LexM (Option Mode) := do
  match ← next with
  | some c =>
    if digit c || c = '_' then pure (some self) else endNumber .integer
  | none => endNumber .integer

/-- Read the end of a string delimited by three quote characters, having read
the first of them. -/
def closeMultiline (q : Char) (self : Mode) (k : ItemKind) (tooMany : String)
    (allowed : String → Bool) : LexM (Option Mode) := do
  if ← accept q then
    if ← accept q then
      if (← peek) = some q then
        let cur ← current
        if !allowed cur then fail tooMany
        backup
        backup
        return some self
      backup
      backup
      backup
      modify fun l => { l with escaped := false }
      emit k
      let _ ← next
      let _ ← next
      let _ ← next
      ignore
      return (← popTo)
    backup
  return some self

/-- Advance by one mode: the mode to go to, or none once the end of input has
been emitted. -/
def step : Mode → LexM (Option Mode)
  | .top => do
    match ← next with
    | none =>
      let l ← get
      if l.start < l.pos then fail "unexpected EOF"
      emit .eof
      return none
    | some c =>
      if isBlank c || isNewline c then
        ignore
        return some .top
      if c = '#' then
        push .top
        return some .commentStart
      if c = '[' then return some .tableStart
      backup
      push .topEnd
      return some .keyStart
  | .topEnd => do
    match ← next with
    | none =>
      emit .eof
      return none
    | some c =>
      if c = '#' then
        push .top
        return some .commentStart
      if isBlank c then return some .topEnd
      if isNewline c then
        ignore
        return some .top
      fail ("expected a top-level item to end with a newline, comment, or EOF, but got " ++
        quoteRune (some c) ++ " instead")
  | .tableStart => do
    if (← peek) = some '[' then
      let _ ← next
      emit .arrayTableStart
      push .arrayTableEnd
    else
      emit .tableStart
      push .tableEnd
    return some .tableNameStart
  | .tableEnd => do
    emit .tableEnd
    return some .topEnd
  | .arrayTableEnd => do
    let r ← next
    if r != some ']' then
      fail ("expected end of table array name delimiter ']', but got " ++ quoteRune r ++
        " instead")
    emit .arrayTableEnd
    return some .topEnd
  | .tableNameStart => do
    skipBlanks
    let r ← peek
    if r = some ']' || r = none then
      fail "unexpected end of table name (table names cannot be empty)"
    if r = some '.' then fail "unexpected table separator (table names cannot be empty)"
    push .tableNameEnd
    if r = some '"' || r = some '\'' then
      ignore
      return some .quotedName
    return some .bareName
  | .tableNameEnd => do
    skipBlanks
    match ← next with
    | some '.' =>
      ignore
      return some .tableNameStart
    | some ']' => popTo
    | r => fail ("expected '.' or ']' to end table name, but got " ++ quoteRune r ++ " instead")
  | .bareName => do
    match ← next with
    | some c =>
      if isBareKeyChar c then return some .bareName
      backup
      emit .text
      popTo
    | none =>
      backup
      emit .text
      popTo
  | .quotedName => do
    match ← next with
    | some '"' =>
      ignore
      return some .basicString
    | some '\'' =>
      ignore
      return some .rawString
    | none => fail "unexpected EOF; expected value"
    | some c => fail ("expected value but found " ++ quoteRune (some c) ++ " instead")
  | .keyStart => do
    skipBlanks
    let r ← peek
    if r = some '=' || r = none then fail "unexpected '=': key name appears blank"
    if r = some '.' then fail "unexpected '.': keys cannot start with a '.'"
    if r = some '"' || r = some '\'' then ignore
    emit .keyStart
    return some .keyNameStart
  | .keyNameStart => do
    skipBlanks
    let r ← peek
    if r = some '=' || r = none then fail "unexpected '='"
    if r = some '.' then fail "unexpected '.'"
    push .keyEnd
    if r = some '"' || r = some '\'' then
      ignore
      return some .quotedName
    return some .bareName
  | .keyEnd => do
    skipBlanks
    match ← next with
    | none => fail "unexpected EOF; expected key separator '='"
    | some '.' =>
      ignore
      return some .keyNameStart
    | some '=' =>
      emit .keyEnd
      ignore
      return some .value
    | some '\n' => failPrevLine "expected '.' or '=', but got '\\n' instead"
    | some c => fail ("expected '.' or '=', but got " ++ quoteRune (some c) ++ " instead")
  | .value => do
    match ← next with
    | none => fail "unexpected EOF; expected value"
    | some c =>
      if isBlank c then
        ignore
        return some .value
      if c.isDigit then
        backup
        return some .numberOrDateStart
      if c = '[' then
        ignore
        emit .arrayStart
        return some .arrayValue
      if c = '{' then
        ignore
        emit .inlineTableStart
        return some .inlineValue
      if c = '"' then
        if ← accept '"' then
          if ← accept '"' then
            ignore
            return some .multilineString
          backup
        ignore
        return some .basicString
      if c = '\'' then
        if ← accept '\'' then
          if ← accept '\'' then
            ignore
            return some .multilineRawString
          backup
        ignore
        return some .rawString
      if c = '.' then fail "floats must start with a digit, not '.'"
      if c = 'i' || c = 'n' then
        let inf ← (do if ← accept 'n' then accept 'f' else pure false)
        let special ← if inf then pure true else (do if ← accept 'a' then accept 'n' else pure false)
        if special then
          emit .float
          return (← popTo)
      if c = '-' || c = '+' then return some .signedNumberStart
      if Unicode.isLetter c then
        backup
        return some .bool
      if c = '\n' then failPrevLine "expected value but found '\\n' instead"
      fail ("expected value but found " ++ quoteRune (some c) ++ " instead")
  | .arrayValue => do
    match ← next with
    | some c =>
      if isBlank c || isNewline c then
        ignore
        return some .arrayValue
      if c = '#' then
        push .arrayValue
        return some .commentStart
      if c = ',' then fail "unexpected comma"
      if c = ']' then return some .arrayEnd
      backup
      push .arrayValueEnd
      return some .value
    | none =>
      backup
      push .arrayValueEnd
      return some .value
  | .arrayValueEnd => do
    match ← next with
    | some c =>
      if isBlank c || isNewline c then
        ignore
        return some .arrayValueEnd
      if c = '#' then
        push .arrayValueEnd
        return some .commentStart
      if c = ',' then
        ignore
        return some .arrayValue
      if c = ']' then return some .arrayEnd
      fail ("expected a comma (',') or array terminator (']'), but got '" ++ c.toString ++ "'")
    | none => fail "expected a comma (',') or array terminator (']'), but got end of file"
  | .arrayEnd => do
    ignore
    emit .arrayEnd
    popTo
  | .inlineValue => do
    match ← next with
    | some c =>
      if isBlank c || isNewline c then
        ignore
        return some .inlineValue
      if c = '#' then
        push .inlineValue
        return some .commentStart
      if c = ',' then fail "unexpected comma"
      if c = '}' then return some .inlineEnd
      backup
      push .inlineValueEnd
      return some .keyStart
    | none =>
      backup
      push .inlineValueEnd
      return some .keyStart
  | .inlineValueEnd => do
    match ← next with
    | some c =>
      if isBlank c || isNewline c then
        ignore
        return some .inlineValueEnd
      if c = '#' then
        push .inlineValueEnd
        return some .commentStart
      if c = ',' then
        ignore
        skipBlanks
        if (← peek) = some '}' then return some .inlineValueEnd
        return some .inlineValue
      if c = '}' then return some .inlineEnd
      fail ("expected a comma or an inline table terminator '\x7d', but got '" ++ c.toString ++
        "' instead")
    | none =>
      fail "expected a comma or an inline table terminator '\x7d', but got end of file instead"
  | .inlineEnd => do
    ignore
    emit .inlineTableEnd
    popTo
  | .basicString => do
    match ← next with
    | none => fail "unexpected EOF; expected '\"'"
    | some c =>
      if isNewline c then failPrevLine "strings cannot contain newlines"
      if c = '\\' then
        push .basicString
        return some .escape
      if c = '"' then
        backup
        emit (if (← get).escaped then .escapedString else .string)
        modify fun l => { l with escaped := false }
        let _ ← next
        ignore
        return (← popTo)
      return some .basicString
  | .multilineString => do
    match ← next with
    | none => fail "unexpected EOF; expected '\"\"\"'"
    | some '\\' => return some .multilineEscape
    | some '"' =>
      closeMultiline '"' .multilineString .multilineString "unexpected '\"\"\"\"\"\"'"
        fun cur => !(cur.endsWith "\"\"\"\"\"" && !cur.endsWith "\\\"\"\"\"\"")
    | some _ => return some .multilineString
  | .rawString => do
    match ← next with
    | none => fail "unexpected EOF; expected \"'\""
    | some c =>
      if isNewline c then failPrevLine "strings cannot contain newlines"
      if c = '\'' then
        backup
        emit .rawString
        let _ ← next
        ignore
        return (← popTo)
      return some .rawString
  | .multilineRawString => do
    match ← next with
    | none => fail "unexpected EOF; expected \"'''\""
    | some '\'' =>
      closeMultiline '\'' .multilineRawString .rawMultilineString "unexpected \"''''''\""
        fun cur => !cur.endsWith "'''''"
    | some _ => return some .multilineRawString
  | .multilineEscape => do
    if (← next).any isNewline then return some .multilineString
    backup
    push .multilineString
    return some .escape
  | .escape => do
    modify fun l => { l with escaped := true }
    match ← next with
    | some c =>
      if "ebtnfr\" \t\\".contains c then return (← popTo)
      if c = 'x' then return some .hexEscape
      if c = 'u' then return some .shortUnicode
      if c = 'U' then return some .longUnicode
      failHere ("invalid escape in string '\\" ++ c.toString ++ "'")
    | none => failHere "invalid escape in string '\\\x00'"
  | .hexEscape => escapeDigits 2 "two" "x"
  | .shortUnicode => escapeDigits 4 "four" "u"
  | .longUnicode => escapeDigits 8 "eight" "U"
  | .numberOrDateStart => do
    match ← next with
    | some '0' => return some .baseNumberOrDate
    | r =>
      if r.any Char.isDigit then return some .numberOrDate
      fail ("expected a digit but got " ++ quoteRune r)
  | .numberOrDate => do
    match ← next with
    | some c =>
      if c.isDigit then return some .numberOrDate
      if c = '-' || c = ':' then return some .datetime
      if c = '_' then return some .decimalNumber
      if c = '.' || c = 'e' || c = 'E' then return some .float
      endNumber .integer
    | none => endNumber .integer
  | .datetime => do
    match ← next with
    | some c =>
      if c.isDigit || "-:Tt .Zz+".contains c then return some .datetime
      backup
      emitText .datetime (← current).trimAscii.toString
      popTo
    | none =>
      backup
      emitText .datetime (← current).trimAscii.toString
      popTo
  | .hexInteger => digitRun isHexDigit .hexInteger
  | .octalInteger => digitRun (fun c => '0' ≤ c && c ≤ '7') .octalInteger
  | .binaryInteger => digitRun (fun c => c = '0' || c = '1') .binaryInteger
  | .decimalNumber => do
    match ← next with
    | some c =>
      if c.isDigit || c = '_' then return some .decimalNumber
      if c = '.' || c = 'e' || c = 'E' then return some .float
      endNumber .integer
    | none => endNumber .integer
  | .signedNumberStart => do
    match ← next with
    | some 'i' =>
      let ok ← (do if ← accept 'n' then accept 'f' else pure false)
      if !ok then fail ("invalid float: '" ++ (← current) ++ "'")
      emit .float
      popTo
    | some 'n' =>
      let ok ← (do if ← accept 'a' then accept 'n' else pure false)
      if !ok then fail ("invalid float: '" ++ (← current) ++ "'")
      emit .float
      popTo
    | some '0' =>
      let p ← peek
      if p = some 'b' || p = some 'o' || p = some 'x' then
        fail ("cannot use sign with non-decimal numbers: '" ++ (← current) ++ runeText p ++ "'")
      return some .decimalNumber
    | some '.' => fail "floats must start with a digit, not '.'"
    | r =>
      if r.any Char.isDigit then return some .decimalNumber
      fail ("expected a digit but got " ++ quoteRune r)
  | .baseNumberOrDate => do
    match ← next with
    | some c =>
      if c.isDigit then return some .numberOrDate
      if c = '_' then return some .decimalNumber
      if c = '.' || c = 'e' || c = 'E' then return some .float
      if c = 'b' then
        let p ← peek
        if !(p.any fun d => d = '0' || d = '1') then
          fail ("not a binary number: '" ++ (← current) ++ runeText p ++ "'")
        return some .binaryInteger
      if c = 'o' then
        let p ← peek
        if !(p.any fun d => '0' ≤ d && d ≤ '7') then
          fail ("not an octal number: '" ++ (← current) ++ runeText p ++ "'")
        return some .octalInteger
      if c = 'x' then
        let p ← peek
        if !(p.any isHexDigit) then
          fail ("not a hexadecimal number: '" ++ (← current) ++ runeText p ++ "'")
        return some .hexInteger
      endNumber .integer
    | none => endNumber .integer
  | .float => do
    match ← next with
    | some c =>
      if c.isDigit || "_.-+eE".contains c then return some .float
      endNumber .float
    | none => endNumber .float
  | .bool => do
    let word ← letters ((← get).input.size + 1)
    if word = "true" || word = "false" then
      emit .bool
      popTo
    else fail ("expected value but found " ++ Quoted.ofString word ++ " instead")
  | .commentStart => do
    ignore
    emit .commentStart
    return some .comment
  | .comment => do
    let r ← next
    if r.all isNewline then
      backup
      emit .text
      popTo
    else return some .comment

def run : Nat → Mode → LexM Unit
  | 0, _ => fail "unexpected EOF"
  | n + 1, m => do
    match ← step m with
    | some m' => run n m'
    | none => pure ()

end Lexer

/-- The items of a document, and the error that stopped lexing, if any. Each
mode either reads a character or moves to a mode that does within a few
steps, so sixteen steps a character are more than enough. -/
def lex (s : String) : List Item × Option LexError :=
  let l : Lexer := { input := s.toList.toArray }
  let (r, l) := (Lexer.run (16 * l.input.size + 64) .top).run.run l
  (l.items.toList, match r with | .ok _ => none | .error e => some e)

end DroneProtocol.Toml
