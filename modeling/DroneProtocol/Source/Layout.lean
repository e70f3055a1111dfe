import DroneProtocol.Source.Syntax
import DroneProtocol.Source.DocComment

/-! # Layout of generated source

The standard layout drops unused imports, pads names in groups to one column,
closes empty literals on their line and rewrites doc comments
(`DocComment.format`). It applies to source that parses (`formatSource`). -/

namespace DroneProtocol.Source

def trimRight (s : String) : String :=
  String.ofList (s.toList.reverse.dropWhile (fun c => c = ' ' || c = '\t')).reverse

def padTo (s : String) (w : Nat) : String := s.pushn ' ' (w - s.length)

/-- Rows of cells with every cell but the last padded to one more than the
widest cell of its column. -/
def alignRows (rows : List (List String)) : List String :=
  let widths (i : Nat) : Nat := (rows.map fun r => (r.getD i "").length).foldl max 0
  rows.map fun r =>
    let n := r.length
    String.join (r.zipIdx.map fun (c, i) => if i + 1 < n then padTo c (widths i + 1) else c)

def cutAt (l sep : String) : String × String :=
  match l.splitOn sep with
  | [] => ("", "")
  | a :: rest => (a, sep.intercalate rest)

def alignConsts (lines : List String) : List String :=
  (alignRows (lines.map fun l =>
    let (name, rest) := cutAt (l.drop 1).toString " "
    let (type, value) := cutAt rest " = "
    [name, type, "= " ++ value])).map ("\t" ++ ·)

def alignFields (lines : List String) : List String :=
  (alignRows (lines.map fun l =>
    let (name, type) := cutAt (l.drop 1).toString " "
    [name, type])).map ("\t" ++ ·)

def alignKeys (lines : List String) : List String :=
  (alignRows (lines.map fun l =>
    let (key, value) := cutAt (l.drop 1).toString ": "
    [key ++ ":", value])).map ("\t" ++ ·)

def startsDecl (l : String) : Bool :=
  match l.toList with
  | c :: _ => c != ' ' && c != '\t'
  | [] => false

/-- Lay out lines of source. -/
def layoutLines : Nat → List String → List String
  | 0, ls => ls
  | _ + 1, [] => []
  | f + 1, l :: rest =>
    if l = "const (" then
      let (specs, after) := rest.span (· != ")")
      match after with
      | _ :: after =>
        if specs.isEmpty then "const ()" :: layoutLines f after
        else "const (" :: alignConsts specs ++ ")" :: layoutLines f after
      | [] => l :: layoutLines f rest
    else if l.endsWith " struct \x7b" then
      let (fields, after) := rest.span (· != "\x7d")
      l :: alignFields fields ++ layoutLines f after
    else if l.endsWith "= &desc.Command\x7b" then
      let (keys, after) := rest.span fun x => x.startsWith "\t" && !x.startsWith "\tArgs:"
      l :: alignKeys keys ++ layoutLines f after
    else if l.startsWith "//" then
      let (group, after) := (l :: rest).span (·.startsWith "//")
      let doc := match after with
        | n :: _ => startsDecl n
        | [] => false
      (if doc then DocComment.format group else group.map trimRight) ++ layoutLines f after
    else if l.endsWith "\x7b" then
      match rest with
      | n :: more => if n.startsWith "\x7d" then (l ++ n) :: layoutLines f more else l :: layoutLines f rest
      | [] => [l]
    else l :: layoutLines f rest

def rawQuote : Char := Char.ofNat 96

def withoutLiterals (l : String) : String :=
  let rec go : List Char → Option Char → Bool → List Char
    | [], _, _ => []
    | c :: cs, some q, esc =>
      if esc then go cs (some q) false
      else if c = '\\' && q != rawQuote then go cs (some q) true
      else if c = q then c :: go cs none false
      else go cs (some q) false
    | c :: cs, none, _ =>
      if c = '"' || c = '\'' || c = rawQuote then c :: go cs (some c) false else c :: go cs none false
  String.ofList (go l.toList none false)

/-- Whether code refers to a package: its name followed by a dot, not as
part of a longer name. -/
def refersTo (code : List String) (name : String) : Bool :=
  code.any fun l =>
    if l.trimAscii.toString.startsWith "//" then false
    else
      let s := withoutLiterals l
      let rec go : List Char → List Char → Bool
        | [], _ => false
        | c :: cs, run =>
          if c = '.' && String.ofList run.reverse = name then true
          else if c.isAlphanum || c = '_' || c.toNat ≥ 0x80 then go cs (c :: run)
          else go cs []
      go s.toList []

/-- Drop the imports of the first import group whose package the rest of
the code never refers to. -/
def pruneImports (lines : List String) : List String :=
  let (before, from_) := lines.span (· != "import (")
  match from_ with
  | [] => lines
  | opening :: rest =>
    let (specs, after) := rest.span (· != ")")
    let used (spec : String) : Bool :=
      let path := (spec.trimAscii.toString.drop 1).toString.dropEnd 1 |>.toString
      match (path.splitOn "/").getLast? with
      | some name => spec.trimAscii.toString.isEmpty || refersTo after name
      | none => true
    before ++ opening :: specs.filter used ++ after

/-- The standard layout of source text that parses. -/
def layout (code : String) : String :=
  let lines := pruneImports (code.splitOn "\n")
  "\n".intercalate (layoutLines (lines.length + 1) lines)

/-- Source in its standard layout, or the report of its syntax errors in a
file. -/
def formatSource (file : String) (code : List UInt8) : Except String String :=
  let bytes := ByteArray.mk code.toArray
  match syntaxErrors bytes with
  | [] =>
    match String.fromUTF8? bytes with
    | some s => .ok (layout s)
    | none => .error (file ++ ": illegal UTF-8 encoding")
  | errs => .error (errorsText file errs)

end DroneProtocol.Source
