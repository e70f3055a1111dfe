import DroneProtocol.Capture.Time
import DroneProtocol.Capture.Calendar
import DroneProtocol.Bytes.Utf8

/-! # Instants as RFC 3339 text

Writing gives `YYYY-MM-DDThh:mm:ss`, the nanoseconds without trailing zeros,
and `Z` or `±hh:mm`. Reading follows the layout `2006-01-02T15:04:05Z07:00`
element by element and reports the first element that does not read, a number
out of range, or trailing text. -/

namespace DroneProtocol

namespace Timestamp

def secondsPerDay : Int := 86400

/-- An instant from a date, a time of day, nanoseconds and the zone offset
the date and time are given in. -/
def ofCivil (y : Int) (month day hour minute second nanos : Nat) (offset : Int) : Timestamp :=
  let days := Calendar.daysFromCivil y month day
  ⟨days * secondsPerDay + hour * 3600 + minute * 60 + second - offset, nanos, offset⟩

/-- The instant some seconds and nanoseconds after 1970 began, shown in UTC;
nanoseconds outside a second carry into the seconds. -/
def ofUnix (seconds nanos : Int) : Timestamp :=
  let s := seconds + nanos / 1000000000
  ⟨s, (nanos % 1000000000).toNat, 0⟩

def isZero (t : Timestamp) : Bool := t.seconds = zero.seconds && t.nanos = 0

def padded (width n : Nat) : String :=
  let ds := Nat.toDigits 10 n
  String.ofList (List.replicate (width - ds.length) '0' ++ ds)

def signedPadded (width : Nat) (i : Int) : String :=
  (if i < 0 then "-" else "") ++ padded width i.natAbs

/-- The nanoseconds as a fraction without trailing zeros, empty for none. -/
def fraction (nanos : Nat) : String :=
  if nanos = 0 then "" else
  "." ++ String.ofList ((Nat.toDigits 10 nanos |> fun ds =>
    List.replicate (9 - ds.length) '0' ++ ds).reverse.dropWhile (· = '0')).reverse

def zoneText (offset : Int) : String :=
  if offset = 0 then "Z" else
  let minutes := offset.natAbs / 60
  (if offset < 0 then "-" else "+") ++ padded 2 (minutes / 60) ++ ":" ++ padded 2 (minutes % 60)

/-- Seconds from 1970 back to the first of March of the year -292277022400,
the origin from which dates are computed: a multiple of 400 years before
year 0, so that eras of 400 years line up. -/
def absoluteOrigin : Int := 62135596800 + (730692556 * 146097 + 306) * 86400

/-- The seconds since 1970 that the date and time of an instant are computed
from: its local time counted from the absolute origin in 64 bits, so that
instants before the origin wrap around to the far end of the range. -/
def shownSeconds (t : Timestamp) : Int :=
  (t.seconds + t.offset + absoluteOrigin) % Int.pow 2 64 - absoluteOrigin

/-- The RFC 3339 text of an instant, with nanoseconds when there are any. -/
def text (t : Timestamp) : String :=
  let shown := shownSeconds t
  let days := shown / secondsPerDay
  let secs := (shown % secondsPerDay).toNat
  let (y, m, d) := Calendar.civilFromDays days
  signedPadded 4 y ++ "-" ++ padded 2 m ++ "-" ++ padded 2 d ++ "T" ++
    padded 2 (secs / 3600) ++ ":" ++ padded 2 (secs / 60 % 60) ++ ":" ++ padded 2 (secs % 60) ++
    fraction t.nanos ++ zoneText t.offset

/-- The layout that instants are read with. -/
def layout : String := "2006-01-02T15:04:05Z07:00"

/-- A text in double quotes: control and non-ASCII bytes as `\xNN`, quotes
and backslashes escaped. -/
def quote (bs : List UInt8) : String :=
  let hex (n : Nat) : Char := if n < 10 then Char.ofNat (48 + n) else Char.ofNat (87 + n)
  let body := bs.flatMap fun b =>
    if b < 0x20 || b ≥ 0x80 then ['\\', 'x', hex (b.toNat / 16), hex (b.toNat % 16)]
    else if b = 34 || b = 92 then ['\\', Char.ofNat b.toNat]
    else [Char.ofNat b.toNat]
  "\"" ++ String.ofList body ++ "\""

/-- Why a text does not read as an instant. -/
inductive ReadError where
  /-- An element of the layout does not match the text from `rest` on. -/
  | element (rest : List UInt8) (element : String)
  /-- A number is out of range. -/
  | range (what : String)
  /-- Text is left after the zone. -/
  | extra (rest : List UInt8)
  deriving DecidableEq, Repr

def ReadError.message (text : List UInt8) : ReadError → String
  | .element rest e => "parsing time " ++ quote text ++ " as " ++ quote (Utf8.encode layout) ++
      ": cannot parse " ++ quote rest ++ " as " ++ quote (Utf8.encode e)
  | .range what => "parsing time " ++ quote text ++ ": " ++ what ++ " out of range"
  | .extra rest => "parsing time " ++ quote text ++ ": extra text: " ++ quote rest

def isDigitByte (b : UInt8) : Bool := 48 ≤ b && b ≤ 57

def digitValue (b : UInt8) : Nat := b.toNat - 48

/-- A one- or two-digit number; `fixed` asks for two digits. -/
def number (fixed : Bool) : List UInt8 → Option (Nat × List UInt8)
  | a :: b :: rest =>
    if !isDigitByte a then none
    else if isDigitByte b then some (digitValue a * 10 + digitValue b, rest)
    else if fixed then none else some (digitValue a, b :: rest)
  | [a] => if isDigitByte a && !fixed then some (digitValue a, []) else none
  | [] => none

/-- Match a separator byte. -/
def separator (sep : UInt8) (element : String) : List UInt8 → Except ReadError (List UInt8)
  | b :: rest => if b = sep then pure rest else throw (.element (b :: rest) element)
  | [] => throw (.element [] element)

/-- A number element with a range; the range is checked after a successful
read. -/
def ranged (fixed : Bool) (element what : String) (ok : Nat → Bool) (s : List UInt8) :
    Except ReadError (Nat × List UInt8) :=
  match number fixed s with
  | none => throw (.element s element)
  | some (n, rest) => if ok n then pure (n, rest) else throw (.range what)

/-- The nanoseconds of a fraction: digits after the separator, the first
nine of them counting. -/
def fractionNanos (digits : List UInt8) : Nat :=
  let ds := digits.take 9
  (ds.foldl (fun acc b => acc * 10 + digitValue b) 0) * Nat.pow 10 (9 - ds.length)

def readFraction (s : List UInt8) : Nat × List UInt8 :=
  match s with
  | sep :: d :: rest =>
    if (sep = 46 || sep = 44) && isDigitByte d then
      let digits := (d :: rest).takeWhile isDigitByte
      (fractionNanos digits, (d :: rest).drop digits.length)
    else (0, s)
  | _ => (0, s)

def readZone (s : List UInt8) : Except ReadError (Int × List UInt8) :=
  match s with
  | 90 :: rest => pure (0, rest)
  | sign :: h1 :: h2 :: colon :: m1 :: m2 :: rest =>
    if colon != 58 then throw (.element s "Z07:00") else
    let hr? := (number true [h1, h2]).map (·.1)
    let mm? := if hr?.isSome then (number true [m1, m2]).map (·.1) else none
    let hr := hr?.getD 0
    let mm := mm?.getD 0
    if mm > 60 then throw (.range "time zone offset minute")
    else if hr > 24 then throw (.range "time zone offset hour")
    else if hr?.isNone || mm?.isNone || !(sign = 43 || sign = 45) then throw (.element s "Z07:00")
    else
      let off : Int := ((hr * 60 + mm) * 60 : Nat)
      pure (if sign = 45 then -off else off, rest)
  | _ => throw (.element s "Z07:00")

/-- Read an instant from RFC 3339 text given as bytes. -/
def readBytes (s : List UInt8) : Except ReadError Timestamp := do
  let (y, s) ← match s with
    | a :: b :: c :: d :: rest =>
      if [a, b, c, d].all isDigitByte then
        pure (((([a, b, c, d].foldl (fun acc x => acc * 10 + digitValue x) 0) : Nat) : Int), rest)
      else throw (.element (a :: b :: c :: d :: rest) "2006")
    | s => throw (.element s "2006")
  let s ← separator 45 "-" s
  let (mo, s) ← ranged true "01" "month" (fun m => 1 ≤ m && m ≤ 12) s
  let s ← separator 45 "-" s
  let (d, s) ← ranged true "02" "day" (fun _ => true) s
  let s ← separator 84 "T" s
  let (h, s) ← ranged false "15" "hour" (· < 24) s
  let s ← separator 58 ":" s
  let (mi, s) ← ranged true "04" "minute" (· < 60) s
  let s ← separator 58 ":" s
  let (se, s) ← ranged true "05" "second" (· < 60) s
  let (ns, s) := readFraction s
  let (off, s) ← readZone s
  if !s.isEmpty then throw (.extra s)
  if d < 1 || d > Calendar.daysIn mo y then throw (.range "day")
  pure (ofCivil y mo d h mi se ns off)

/-- Read an instant from RFC 3339 text; failures carry their message. -/
def read (s : String) : Except String Timestamp :=
  let bs := Utf8.encode s
  (readBytes bs).mapError (·.message bs)

end Timestamp

end DroneProtocol
