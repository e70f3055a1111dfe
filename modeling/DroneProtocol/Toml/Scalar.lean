import DroneProtocol.Text.Integer
import DroneProtocol.Ieee.Text
import DroneProtocol.Capture.Rfc3339
import DroneProtocol.Toml.Lexer

/-! # TOML scalars

The lexer only sketches numbers, datetimes and strings; this module checks
them and computes their values: escapes, integers and floats in range, and
the four kinds of datetime. -/

namespace DroneProtocol.Toml

def isScalar (v : Nat) : Bool := v < 0xD800 || (0xDFFF < v && v ≤ 0x10FFFF)

def hexValue (ds : List Char) : Nat := ds.foldl (fun acc c => acc * 16 + Numeral.digitValue c) 0

/-- Replace the escapes of a basic string, or say which one is wrong. -/
def unescape (cs : List Char) : Except String (List Char) :=
  match cs with
  | [] => pure []
  | '\\' :: c :: rest =>
    let coded (n : Nat) : Except String (List Char) := do
      let ds := rest.take n
      let v := hexValue ds
      if !isScalar v then
        throw ("Escaped character '\\u" ++ String.ofList ds ++ "' is not valid UTF-8.")
      pure (Char.ofNat v :: (← unescape (rest.drop n)))
    match c with
    | 'b' => ('\x08' :: ·) <$> unescape rest
    | 't' => ('\t' :: ·) <$> unescape rest
    | 'n' => ('\n' :: ·) <$> unescape rest
    | 'f' => ('\x0c' :: ·) <$> unescape rest
    | 'r' => ('\r' :: ·) <$> unescape rest
    | 'e' => ('\x1b' :: ·) <$> unescape rest
    | '"' => ('"' :: ·) <$> unescape rest
    | '\\' => ('\\' :: ·) <$> unescape rest
    | 'x' => coded 2
    | 'u' => coded 4
    | 'U' => coded 8
    | ' ' | '\t' => throw ("invalid escape: '\\" ++ c.toString ++ "'")
    | _ => (c :: ·) <$> unescape rest
  | c :: rest => (c :: ·) <$> unescape rest
termination_by cs.length
decreasing_by all_goals (simp only [List.length_cons, List.length_drop]; omega)

def isSpaceOrBreak (c : Char) : Bool := c = ' ' || c = '\t' || c = '\r' || c = '\n'

/-- Remove each backslash that ends a line, with the blanks and line breaks
after it. -/
def stripEscapedNewlines (cs : List Char) : List Char :=
  match cs with
  | [] => []
  | '\\' :: '\\' :: rest => '\\' :: '\\' :: stripEscapedNewlines rest
  | '\\' :: rest =>
    let run := rest.takeWhile isSpaceOrBreak
    if run.contains '\n' then stripEscapedNewlines (rest.drop run.length)
    else '\\' :: stripEscapedNewlines rest
  | c :: rest => c :: stripEscapedNewlines rest
termination_by cs.length
decreasing_by all_goals (simp only [List.length_cons, List.length_drop]; omega)

def stripFirstNewline : List Char → List Char
  | '\n' :: rest => rest
  | '\r' :: '\n' :: rest => rest
  | cs => cs

def stringValue (it : Item) : Except String String :=
  let cs := it.text.toList
  match it.kind with
  | .escapedString => String.ofList <$> unescape cs
  | .multilineString => String.ofList <$> unescape (stripFirstNewline (stripEscapedNewlines cs))
  | .rawMultilineString => pure (String.ofList (stripFirstNewline cs))
  | _ => pure it.text

/-- Whether underscores in a number only stand between digits. -/
def underscoresBetweenDigits (s : String) : Bool :=
  if ["nan", "+nan", "-nan", "inf", "-inf", "+inf"].contains s then true
  else
    let (ok, after) := s.toList.foldl (fun (ok, after) c =>
      (ok && !(c = '_' && !after), isHexDigit c)) (true, false)
    ok && after

/-- Whether a number starts with a zero that is not a lone zero or a base
prefix. -/
def hasLeadingZero (s : String) : Bool :=
  match s.toList with
  | '0' :: c :: _ => !(c = 'b' || c = 'o' || c = 'x')
  | '-' :: '0' :: _ :: _ | '+' :: '0' :: _ :: _ => true
  | _ => false

def integerValue (text : String) : Except String Int := do
  if !underscoresBetweenDigits text then
    throw ("Invalid integer " ++ Quoted.ofString text ++ ": underscores must be surrounded by digits")
  if hasLeadingZero text then
    throw ("Invalid integer " ++ Quoted.ofString text ++ ": cannot have leading zeroes")
  match Numeral.signed? 0 text with
  | some v =>
    if -Int.pow 2 63 ≤ v && v < Int.pow 2 63 then pure v
    else throw (text ++ " is out of range for int64")
  | none => throw ("Expected integer value, but got '" ++ text ++ "'.")

def periodsOk (s : String) : Bool :=
  let (ok, period) := s.toList.foldl (fun (ok, period) c =>
    (ok && !(period && !c.isDigit), c = '.')) (true, false)
  ok && !period

def checkFloat (text : String) : Except String Unit := do
  let parts := (text.split (fun c => c = '.' || c = 'e' || c = 'E')).toList.map (·.toString)
    |>.filter (!·.isEmpty)
  if parts.any (!underscoresBetweenDigits ·) then
    throw ("Invalid float " ++ Quoted.ofString text ++ ": underscores must be surrounded by digits")
  if (parts.head?.map hasLeadingZero).getD false then
    throw ("Invalid float " ++ Quoted.ofString text ++ ": cannot have leading zeroes")
  if !periodsOk text then
    throw ("Invalid float " ++ Quoted.ofString text ++ ": '.' must be followed by one or more digits")
  let plain := String.ofList (text.toList.filter (· ≠ '_'))
  let plain := if plain = "+nan" || plain = "-nan" then "nan" else plain
  match Ieee.double.parse? plain with
  | none => throw ("Invalid float value: " ++ Quoted.ofString text)
  | some bits =>
    let word := (plain.toList.dropWhile fun c => c = '+' || c = '-').map Char.toLower
    if Ieee.double.isInfinite bits && !(word = "inf".toList || word = "infinity".toList) then
      throw (text ++ " is out of range for float64")

def fixedDigits (n : Nat) (s : List Char) : Option (Nat × List Char) :=
  let ds := s.take n
  if ds.length = n && ds.all Char.isDigit then
    some (ds.foldl (fun acc c => acc * 10 + (c.toNat - 48)) 0, s.drop n)
  else none

def literal (c : Char) : List Char → Option (List Char)
  | d :: rest => if c = d then some rest else none
  | [] => none

def readDate (s : List Char) : Option (List Char) := do
  let (y, s) ← fixedDigits 4 s
  let s ← literal '-' s
  let (m, s) ← fixedDigits 2 s
  let s ← literal '-' s
  let (d, s) ← fixedDigits 2 s
  if 1 ≤ m && m ≤ 12 && 1 ≤ d && d ≤ Calendar.daysIn m y then some s else none

/-- A time of day: hours and minutes, then seconds and a fraction when
`seconds` holds. -/
def readClock (seconds : Bool) (s : List Char) : Option (List Char) := do
  let (h, s) ← fixedDigits 2 s
  let s ← literal ':' s
  let (m, s) ← fixedDigits 2 s
  if !(h < 24 && m < 60) then none
  if !seconds then return s
  let s ← literal ':' s
  let (sec, s) ← fixedDigits 2 s
  if 60 ≤ sec then none
  match s with
  | c :: d :: rest =>
    if (c = '.' || c = ',') && d.isDigit then some (rest.dropWhile Char.isDigit) else some s
  | _ => some s

def readOffset (s : List Char) : Option (List Char) :=
  match s with
  | 'Z' :: rest => some rest
  | c :: rest =>
    if c = '+' || c = '-' then do
      let (h, r) ← fixedDigits 2 rest
      let r ← literal ':' r
      let (m, r) ← fixedDigits 2 r
      if h ≤ 24 && m ≤ 60 then some r else none
    else none
  | [] => none

def whole (read : List Char → Option (List Char)) (s : List Char) : Bool :=
  read s = some []

/-- Whether a datetime written with a layout misses a leading zero: a
separator of the layout, up to the fraction or zone, stands elsewhere. -/
def missingLeadingZero (d : List Char) (layout : String) : Bool :=
  let rec go : List Char → List Char → Bool
    | [], _ => false
    | c :: cs, ds =>
      if c = '.' || c = 'Z' then false
      else if !c.isDigit && ds.head? != some c then true
      else go cs ds.tail
  go layout.toList d

/-- Check a datetime item; the text is given with its separators made
canonical. -/
def datetimeOk (v : String) : Bool :=
  let s := v.toList
  let date (tail : List Char → Option (List Char)) (cs : List Char) : Option (List Char) := do
    let cs ← readDate cs
    let cs ← literal 'T' cs
    tail cs
  let layouts : List (Bool × String) :=
    [((Timestamp.read v).toOption.isSome, "2006-01-02T15:04:05.999999999Z07:00"),
     (whole (date (readClock true)) s, "2006-01-02T15:04:05.999999999"),
     (whole readDate s, "2006-01-02"),
     (whole (readClock true) s, "15:04:05.999999999"),
     (whole (date fun cs => readClock false cs >>= readOffset) s, "2006-01-02T15:04Z07:00"),
     (whole (date (readClock false)) s, "2006-01-02T15:04"),
     (whole (readClock false) s, "15:04")]
  match layouts.find? (·.1) with
  | some (_, layout) => !missingLeadingZero s layout
  | none => false

def canonicalDatetime (text : String) : String :=
  String.ofList (text.toList.map fun c =>
    if c = 'z' then 'Z' else if c = 't' || c = ' ' then 'T' else c)

def checkDatetime (text : String) : Except String Unit :=
  let v := canonicalDatetime text
  if datetimeOk v then pure () else throw ("invalid datetime: " ++ Quoted.ofString v)

end DroneProtocol.Toml
