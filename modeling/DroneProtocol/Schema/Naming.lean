import DroneProtocol.Text.Unicode
import DroneProtocol.Bytes.Utf8

/-! # Identifiers made from schema names

Exported identifiers keep letters and digits and capitalise each word; file
names are lower case with `_` between words; a parameter name lowers the first
byte of the identifier, so it is bytes and not always text. -/

namespace DroneProtocol.Naming

def isBreak (c : Char) : Bool := c = '_' || c = '-' || c = '.' || c = ' '

/-- The characters of an identifier, given whether the next kept character
starts a word. -/
def identChars : Bool → List Char → List Char
  | _, [] => []
  | upper, c :: cs =>
    if isBreak c then identChars true cs
    else if !(Unicode.isLetter c || Unicode.isDigit c) then identChars upper cs
    else (if upper then Unicode.toUpper c else c) :: identChars false cs

def goName (name : String) : String :=
  match identChars true name.toList with
  | [] => "X"
  | c :: cs => if c.isDigit then String.ofList ('X' :: c :: cs) else String.ofList (c :: cs)

def fileChars : Nat → List Char → List Char
  | _, [] => []
  | i, c :: cs =>
    let d := if c = '-' || c = '.' then '_' else c
    let rest := Unicode.toLower d :: fileChars (i + 1) cs
    if i > 0 && Unicode.isUpper d then '_' :: rest else rest

def fileName (name : String) : String := String.ofList (fileChars 0 name.toList)

def keywords : List String :=
  ["break", "case", "chan", "const", "continue", "default", "defer", "else",
    "fallthrough", "for", "func", "go", "goto", "if", "import", "interface", "map",
    "package", "range", "return", "select", "struct", "switch", "type", "var"]

def reservedParams : List String :=
  ["cb", "cmditf", "desc", "dispatch", "err", "itf", "msg", "status", "wire"]

/-- The bytes of a text with its first byte lowered. A first byte that starts
a multi-byte character is not text on its own and lowers to the replacement
character. -/
def firstLower (s : String) : List UInt8 :=
  match Utf8.encode s with
  | [] => []
  | b :: bs =>
    if b < 0x80 then Utf8.encode (String.singleton (Char.ofNat b.toNat).toLower) ++ bs
    else Utf8.encode (String.singleton Utf8.replacement) ++ bs

def paramName (name : String) : List UInt8 :=
  let p := firstLower (goName name)
  match Utf8.decode? p with
  | some t => if keywords.contains t || reservedParams.contains t then Utf8.encode (t ++ "Arg") else p
  | none => p

end DroneProtocol.Naming
