import DroneProtocol.Bytes.Utf8
import DroneProtocol.Text.Quoted
import DroneProtocol.Text.Unicode

/-! # Tokens of Go source

The lexical rules of the language with its reference scanner's reports, each
kept with the byte offset it is about; a newline after an identifier, a
literal or a closing bracket is a semicolon. -/

namespace DroneProtocol.Source

/-- A kind of token. -/
inductive Tok where
  | illegal
  | eof
  | comment
  | ident
  | int
  | float
  | imag
  | char
  | string
  /-- An operator or delimiter, by its text. -/
  | op (text : String)
  /-- A keyword, by its text. -/
  | keyword (text : String)
  deriving DecidableEq, Repr, Inhabited

namespace Tok

def name : Tok → String
  | .illegal => "ILLEGAL"
  | .eof => "EOF"
  | .comment => "COMMENT"
  | .ident => "IDENT"
  | .int => "INT"
  | .float => "FLOAT"
  | .imag => "IMAG"
  | .char => "CHAR"
  | .string => "STRING"
  | .op t => t
  | .keyword t => t

def isLiteral : Tok → Bool
  | .ident | .int | .float | .imag | .char | .string => true
  | _ => false

end Tok

/-- The keywords of the language. -/
def keywords : List String :=
  ["break", "case", "chan", "const", "continue", "default", "defer", "else", "fallthrough",
   "for", "func", "go", "goto", "if", "import", "interface", "map", "package", "range", "return",
   "select", "struct", "switch", "type", "var"]

def endOfInput : Int := -1

/-- The character at an offset and its width: a byte that starts no UTF-8
character reads as U+FFFD of width one. -/
def decodeAt (src : ByteArray) (i : Nat) : Nat × Nat :=
  let bs := [src[i]?, src[i + 1]?, src[i + 2]?, src[i + 3]?].filterMap id
  match Utf8.step? bs with
  | some (v, ⟨rest, _⟩) => (v, bs.length - rest.length)
  | none => (0xFFFD, 1)

/-- A code point as messages write it: `U+0024 '$'`, without the character
when it does not print. -/
def codePoint (c : Nat) : String :=
  let digits := (Nat.toDigits 16 c).map Char.toUpper
  let hex := "U+" ++ String.ofList (List.replicate (4 - digits.length) '0' ++ digits)
  if c ≤ 0x10FFFF && Quoted.printable c then hex ++ " '" ++ String.singleton (Char.ofNat c) ++ "'"
  else hex

/-- The state of a scan. -/
structure Scanner where
  src : ByteArray
  /-- The current character, or `endOfInput`. -/
  ch : Int := endOfInput
  /-- The offset of the current character. -/
  offset : Nat := 0
  /-- The offset after the current character. -/
  rdOffset : Nat := 0
  /-- Whether a newline now ends a statement. -/
  insertSemi : Bool := false
  /-- The offset of the newline inside a block comment that ends a
  statement, to be returned after the comment. -/
  nlPos : Option Nat := none
  /-- The reports so far, with the offsets they are about. -/
  errors : Array (Nat × String) := #[]
  deriving Inhabited

/-- A scanned token: its kind, offset and text. -/
structure Token where
  tok : Tok
  pos : Nat
  lit : String
  deriving Repr, Inhabited

namespace Scanner

/-- Record a report. -/
def error (s : Scanner) (offs : Nat) (msg : String) : Scanner :=
  { s with errors := s.errors.push (offs, msg) }

def next (s : Scanner) : Scanner :=
  if s.rdOffset < s.src.size then
    let offset := s.rdOffset
    let b := s.src.get! offset
    if b = 0 then
      { (s.error offset "illegal character NUL") with offset, rdOffset := offset + 1, ch := 0 }
    else if b < 0x80 then { s with offset, rdOffset := offset + 1, ch := b.toNat }
    else
      let (r, w) := decodeAt s.src offset
      let s := if r = 0xFFFD && w = 1 then s.error offset "illegal UTF-8 encoding"
        else if r = 0xFEFF && 0 < offset then s.error offset "illegal byte order mark"
        else s
      { s with offset, rdOffset := offset + w, ch := r }
  else { s with offset := s.src.size, ch := endOfInput }

def peek (s : Scanner) : Nat :=
  if h : s.rdOffset < s.src.size then (s.src.get s.rdOffset h).toNat else 0

def start (src : ByteArray) : Scanner :=
  let s := next { src }
  if s.ch = 0xFEFF then next s else s

def text (s : Scanner) (a b : Nat) : String :=
  String.fromUTF8? (s.src.extract a b) |>.getD
    (String.ofList (Utf8.chars (s.src.extract a b).toList))

def skipWhile (p : Int → Bool) : Nat → Scanner → Scanner
  | 0, s => s
  | fuel + 1, s => if p s.ch then skipWhile p fuel (next s) else s

def isLetter (c : Int) : Bool :=
  ((97 : Int) ≤ c && c ≤ 122) || ((65 : Int) ≤ c && c ≤ 90) || c = 95 ||
    (0x80 ≤ c && Unicode.isLetter (Char.ofNat c.toNat))

def isDigit (c : Int) : Bool :=
  ((48 : Int) ≤ c && c ≤ 57) || (0x80 ≤ c && Unicode.isDigit (Char.ofNat c.toNat))

def isDecimal (c : Int) : Bool := (48 : Int) ≤ c && c ≤ 57

def isHex (c : Int) : Bool := isDecimal c || ((97 : Int) ≤ c && c ≤ 102) || ((65 : Int) ≤ c && c ≤ 70)

def lower (c : Int) : Int := if (65 : Int) ≤ c && c ≤ 90 then c + 32 else c

def digitVal (c : Int) : Nat :=
  if isDecimal c then (c - 48).toNat
  else if (97 : Int) ≤ lower c && lower c ≤ 102 then (lower c - 97 + 10).toNat
  else 16

/-- Read the digits of a base: returns whether a digit (bit 0) and an
underscore (bit 1) were seen, and the offset of the first digit too large for
a base up to ten. -/
def digits (base : Nat) : Nat → Scanner × Nat × Option Nat → Scanner × Nat × Option Nat
  | 0, acc => acc
  | fuel + 1, (s, ds, invalid) =>
    if base ≤ 10 then
      if isDecimal s.ch || s.ch = 95 then
        let d := if s.ch = 95 then 2 else 1
        let invalid := if s.ch ≠ 95 && (48 + base : Int) ≤ s.ch && invalid.isNone then some s.offset
          else invalid
        digits base fuel (next s, ds ||| d, invalid)
      else (s, ds, invalid)
    else if isHex s.ch || s.ch = 95 then
      digits base fuel (next s, ds ||| (if s.ch = 95 then 2 else 1), invalid)
    else (s, ds, invalid)

def litName (pfx : Char) : String :=
  match pfx with
  | 'x' => "hexadecimal literal"
  | 'o' => "octal literal"
  | '0' => "octal literal"
  | 'b' => "binary literal"
  | _ => "decimal literal"

/-- The offset of an underscore that does not separate digits in a number
literal, if any. -/
def invalidSep (lit : List Char) : Option Nat :=
  let (x1, d, i0) : Char × Char × Nat :=
    if lit.length ≥ 2 && lit.head? = some '0' then
      let c := (lit.getD 1 ' ').toLower
      if c = 'x' || c = 'o' || c = 'b' then ('0', '0', 2) else (' ', '.', 0)
    else (' ', '.', 0)
  let rec go : List Char → Nat → Char → Char → Option Nat
    | [], _, _, d => if d = '_' then some (lit.length - 1) else none
    | c :: rest, i, x1, d =>
      let p := d
      let d := if c = '_' then '_'
        else if c.isDigit || (x1 = 'x' && (('a' ≤ c.toLower && c.toLower ≤ 'f'))) then '0'
        else '.'
      if c = '_' && p ≠ '0' then some i
      else if c ≠ '_' && d ≠ '0' && p = '_' then some (i - 1)
      else go rest (i + 1) x1 d
  if i0 = 2 then
    let x1 := (lit.getD 1 ' ').toLower
    go (lit.drop 2) 2 x1 d
  else go lit 0 x1 d

/-- Scan a number literal starting at the current character. -/
def scanNumber (s : Scanner) : Scanner × Tok × String :=
  let offs := s.offset
  let fuel := s.src.size + 1
  let (s, tok, base, pfx, ds, invalid) : Scanner × Tok × Nat × Char × Nat × Option Nat :=
    if s.ch ≠ 46 then
      let (s, base, pfx, ds) : Scanner × Nat × Char × Nat :=
        if s.ch = 48 then
          let s := next s
          match lower s.ch with
          | 120 => (next s, 16, 'x', 0)
          | 111 => (next s, 8, 'o', 0)
          | 98 => (next s, 2, 'b', 0)
          | _ => (s, 8, '0', 1)
        else (s, 10, ' ', 0)
      let (s, ds2, invalid) := digits base fuel (s, 0, none)
      let ds := ds ||| ds2
      let s := if ds &&& 1 = 0 then s.error s.offset (litName pfx ++ " has no digits") else s
      (s, .int, base, pfx, ds, invalid)
    else (s, .illegal, 10, ' ', 0, none)
  let (s, tok, ds, invalid) :=
    if s.ch = 46 then
      let s := if pfx = 'o' || pfx = 'b' then s.error s.offset ("invalid radix point in " ++ litName pfx)
        else s
      let (s, ds2, invalid) := digits base fuel (next s, 0, invalid)
      (s, Tok.float, ds ||| ds2, invalid)
    else (s, tok, ds, invalid)
  let s := if ds &&& 1 = 0 then s.error s.offset (litName pfx ++ " has no digits") else s
  let e := lower s.ch
  let (s, tok, ds) :=
    if e = 101 || e = 112 then
      let s := if e = 101 && pfx ≠ ' ' && pfx ≠ '0' then
          s.error s.offset ("'" ++ String.singleton (Char.ofNat s.ch.toNat) ++ "' exponent requires decimal mantissa")
        else if e = 112 && pfx ≠ 'x' then
          s.error s.offset ("'" ++ String.singleton (Char.ofNat s.ch.toNat) ++ "' exponent requires hexadecimal mantissa")
        else s
      let s := next s
      let s := if s.ch = 43 || s.ch = 45 then next s else s
      let (s, eds, _) := digits 10 fuel (s, 0, none)
      let s := if eds &&& 1 = 0 then s.error s.offset "exponent has no digits" else s
      (s, Tok.float, ds ||| eds)
    else if pfx = 'x' && tok = .float then
      (s.error s.offset "hexadecimal mantissa requires a 'p' exponent", tok, ds)
    else (s, tok, ds)
  let (s, tok) := if s.ch = 105 then (next s, Tok.imag) else (s, tok)
  let lit := s.text offs s.offset
  let s := match tok, invalid with
    | .int, some i =>
      let c := Char.ofNat (s.src.get! i).toNat
      s.error i ("invalid digit '" ++ String.singleton c ++ "' in " ++ litName pfx)
    | _, _ => s
  let s := if ds &&& 2 ≠ 0 then
      match invalidSep lit.toList with
      | some i => s.error (offs + i) "'_' must separate successive digits"
      | none => s
    else s
  (s, tok, lit)

/-- Read an escape after a backslash inside a literal closed by a quote;
reports what is wrong with it. -/
def scanEscape (s : Scanner) (quote : Int) : Scanner × Bool :=
  let offs := s.offset
  let simple : List Int := [97, 98, 102, 110, 114, 116, 118, 92, quote]
  if simple.contains s.ch then (next s, true)
  else
    let spec : Option (Scanner × Nat × Nat × Nat) :=
      if (48 : Int) ≤ s.ch && s.ch ≤ 55 then some (s, 3, 8, 255)
      else if s.ch = 120 then some (next s, 2, 16, 255)
      else if s.ch = 117 then some (next s, 4, 16, 0x10FFFF)
      else if s.ch = 85 then some (next s, 8, 16, 0x10FFFF)
      else none
    match spec with
    | none =>
      (s.error offs (if s.ch < 0 then "escape sequence not terminated" else "unknown escape sequence"),
        false)
    | some (s, n, base, max) =>
      let rec go : Nat → Scanner → Nat → Scanner × Option Nat
        | 0, s, x => (s, some x)
        | k + 1, s, x =>
          let d := digitVal s.ch
          if d ≥ base then
            let msg := if s.ch < 0 then "escape sequence not terminated"
              else "illegal character " ++ codePoint s.ch.toNat ++ " in escape sequence"
            (s.error s.offset msg, none)
          else go k (next s) (x * base + d)
      match go n s 0 with
      | (s, none) => (s, false)
      | (s, some x) =>
        if x > max || (0xD800 ≤ x && x < 0xE000) then
          (s.error offs "escape sequence is invalid Unicode code point", false)
        else (s, true)

def scanString (s : Scanner) : Scanner × String :=
  let offs := s.offset - 1
  let rec go : Nat → Scanner → Scanner
    | 0, s => s
    | fuel + 1, s =>
      let ch := s.ch
      if ch = 10 || ch < 0 then s.error offs "string literal not terminated"
      else
        let s := next s
        if ch = 34 then s
        else if ch = 92 then go fuel (scanEscape s 34).1
        else go fuel s
  let s := go (s.src.size + 1) s
  (s, s.text offs s.offset)

/-- Scan a character literal after its opening quote. -/
def scanRune (s : Scanner) : Scanner × String :=
  let offs := s.offset - 1
  let rec go : Nat → Scanner → Bool → Nat → Scanner × Bool × Nat
    | 0, s, valid, n => (s, valid, n)
    | fuel + 1, s, valid, n =>
      let ch := s.ch
      if ch = 10 || ch < 0 then
        if valid then (s.error offs "rune literal not terminated", false, n) else (s, valid, n)
      else
        let s := next s
        if ch = 39 then (s, valid, n)
        else if ch = 92 then
          let (s, ok) := scanEscape s 39
          go fuel s (valid && ok) (n + 1)
        else go fuel s valid (n + 1)
  let (s, valid, n) := go (s.src.size + 1) s true 0
  let s := if valid && n ≠ 1 then s.error offs "illegal rune literal" else s
  (s, s.text offs s.offset)

def scanRawString (s : Scanner) : Scanner × String :=
  let offs := s.offset - 1
  let rec go : Nat → Scanner → Scanner
    | 0, s => s
    | fuel + 1, s =>
      let ch := s.ch
      if ch < 0 then s.error offs "raw string literal not terminated"
      else
        let s := next s
        if ch = 96 then s else go fuel s
  let s := go (s.src.size + 1) s
  (s, String.ofList ((s.text offs s.offset).toList.filter (· ≠ '\r')))

/-- Scan a comment after its first slash; returns the offset of the first
newline inside a block comment, if any. -/
def scanComment (s : Scanner) : Scanner × String × Option Nat :=
  let offs := s.offset - 1
  let fuel := s.src.size + 1
  if s.ch = 47 then
    let s := skipWhile (fun c => c ≠ 10 && c ≥ 0) fuel (next s)
    (s, s.text offs s.offset, none)
  else
    let rec go : Nat → Scanner → Option Nat → Scanner × Option Nat
      | 0, s, nl => (s, nl)
      | k + 1, s, nl =>
        if s.ch < 0 then (s.error offs "comment not terminated", nl)
        else
          let ch := s.ch
          let nl := if ch = 10 && nl.isNone then some s.offset else nl
          let s := next s
          if ch = 42 && s.ch = 47 then (next s, nl) else go k s nl
    let (s, nl) := go fuel (next s) none
    (s, s.text offs s.offset, nl)

def switch2 (s : Scanner) (a b : String) : Scanner × Tok :=
  if s.ch = 61 then (next s, .op b) else (s, .op a)

/-- One of three operators: the second after `=`, the third after a given
character. -/
def switch3 (s : Scanner) (a b : String) (c : Int) (d : String) : Scanner × Tok :=
  if s.ch = 61 then (next s, .op b) else if s.ch = c then (next s, .op d) else (s, .op a)

/-- One of four operators: the second after `=`, the third after a given
character, the fourth after that character and `=`. -/
def switch4 (s : Scanner) (a b : String) (c : Int) (d e : String) : Scanner × Tok :=
  if s.ch = 61 then (next s, .op b)
  else if s.ch = c then
    let s := next s
    if s.ch = 61 then (next s, .op e) else (s, .op d)
  else (s, .op a)

def skipWhitespace (s : Scanner) : Scanner :=
  skipWhile (fun c => c = 32 || c = 9 || c = 13 || (c = 10 && !s.insertSemi)) (s.src.size + 1) s

/-- Scan the token after an operator character already consumed. -/
def scanOperator (s : Scanner) (ch : Int) (pos : Nat) : Scanner × Tok × String × Bool :=
  let same (r : Scanner × Tok) (semi : Bool := false) : Scanner × Tok × String × Bool :=
    (r.1, r.2, "", semi)
  match ch.toNat with
  | 58 => same (s.switch2 ":" ":=")
  | 46 =>
    if s.ch = 46 && s.peek = 46 then (next (next s), .op "...", "", false)
    else (s, .op ".", "", false)
  | 44 => (s, .op ",", "", false)
  | 59 => (s, .op ";", ";", false)
  | 40 => (s, .op "(", "", false)
  | 41 => (s, .op ")", "", true)
  | 91 => (s, .op "[", "", false)
  | 93 => (s, .op "]", "", true)
  | 123 => (s, .op "\x7b", "", false)
  | 125 => (s, .op "\x7d", "", true)
  | 43 => let r := s.switch3 "+" "+=" 43 "++"; same r (r.2 = .op "++")
  | 45 => let r := s.switch3 "-" "-=" 45 "--"; same r (r.2 = .op "--")
  | 42 => same (s.switch2 "*" "*=")
  | 47 => same (s.switch2 "/" "/=")
  | 37 => same (s.switch2 "%" "%=")
  | 94 => same (s.switch2 "^" "^=")
  | 60 => if s.ch = 45 then (next s, .op "<-", "", false) else same (s.switch4 "<" "<=" 60 "<<" "<<=")
  | 62 => same (s.switch4 ">" ">=" 62 ">>" ">>=")
  | 61 => same (s.switch2 "=" "==")
  | 33 => same (s.switch2 "!" "!=")
  | 38 =>
    if s.ch = 94 then same ((next s).switch2 "&^" "&^=")
    else same (s.switch3 "&" "&=" 38 "&&")
  | 124 => same (s.switch3 "|" "|=" 124 "||")
  | 126 => (s, .op "~", "", false)
  | c =>
    let s := if c = 0xFEFF then s
      else if c = 0x201C || c = 0x201D then
        s.error pos ("curly quotation mark '" ++ String.singleton (Char.ofNat c) ++ "' (use neutral '\"')")
      else s.error pos ("illegal character " ++ codePoint c)
    (s, .illegal, String.singleton (Char.ofNat c), s.insertSemi)

/-- Scan the next token, comments included. -/
def scan (s : Scanner) : Scanner × Token :=
  match s.nlPos with
  | some p => ({ s with nlPos := none }, ⟨.op ";", p, "\n"⟩)
  | none =>
    let s := skipWhitespace s
    let pos := s.offset
    let ch := s.ch
    if isLetter ch then
      let s := skipWhile (fun c => isLetter c || isDigit c) (s.src.size + 1) (next s)
      let lit := s.text pos s.offset
      let tok := if lit.length > 1 && keywords.contains lit then Tok.keyword lit else .ident
      let semi := match tok with
        | .ident => true
        | .keyword k => k = "break" || k = "continue" || k = "fallthrough" || k = "return"
        | _ => false
      ({ s with insertSemi := semi }, ⟨tok, pos, lit⟩)
    else if isDecimal ch || (ch = 46 && isDecimal s.peek) then
      let (s, tok, lit) := scanNumber s
      ({ s with insertSemi := true }, ⟨tok, pos, lit⟩)
    else
      let s := next s
      if ch < 0 then
        if s.insertSemi then ({ s with insertSemi := false }, ⟨.op ";", pos, "\n"⟩)
        else (s, ⟨.eof, pos, ""⟩)
      else if ch = 10 then ({ s with insertSemi := false }, ⟨.op ";", pos, "\n"⟩)
      else if ch = 34 then
        let (s, lit) := scanString s
        ({ s with insertSemi := true }, ⟨.string, pos, lit⟩)
      else if ch = 39 then
        let (s, lit) := scanRune s
        ({ s with insertSemi := true }, ⟨.char, pos, lit⟩)
      else if ch = 96 then
        let (s, lit) := scanRawString s
        ({ s with insertSemi := true }, ⟨.string, pos, lit⟩)
      else if ch = 47 && (s.ch = 47 || s.ch = 42) then
        let (s, lit, nl) := scanComment s
        let s := match nl with
          | some n => if s.insertSemi then { s with nlPos := some n, insertSemi := false } else s
          | none => s
        (s, ⟨.comment, pos, lit⟩)
      else
        let (s, tok, lit, semi) := scanOperator s ch pos
        ({ s with insertSemi := semi }, ⟨tok, pos, lit⟩)

end Scanner

/-- The offsets at which the lines of a source start: after each newline
that is not the last byte. -/
def lineStarts (src : ByteArray) : Array Nat :=
  (List.range src.size).foldl
    (fun acc i => if src.get! i = 10 && i + 1 < src.size then acc.push (i + 1) else acc) #[0]

def position (starts : Array Nat) (offs : Nat) : Nat × Nat :=
  let line := (starts.toList.filter (· ≤ offs)).length
  (line, offs - starts.getD (line - 1) 0 + 1)

end DroneProtocol.Source
