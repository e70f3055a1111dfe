import DroneProtocol.Text.Unicode

/-! # Doc comments in their standard form

A comment right above a declaration is read as headings, link definitions and
paragraphs, and written back with one blank line between blocks, the used
link definitions before the unused ones. -/

namespace DroneProtocol.Source.DocComment

def tick : Char := Char.ofNat 96

def trimEnd (s : String) : String :=
  String.ofList (s.toList.reverse.dropWhile (fun c => c = ' ' || c = '\t')).reverse

def leadingSpace (s : String) : String :=
  String.ofList (s.toList.takeWhile fun c => c = ' ' || c = '\t')

def commonPrefix (a b : String) : String :=
  String.ofList (((a.toList.zip b.toList).takeWhile fun p => p.1 = p.2).map (·.1))

def trimLines (ls : List String) : List String :=
  ((ls.dropWhile (· = "")).reverse.dropWhile (· = "")).reverse

/-- Lines with their common leading blanks removed and lines of blanks
emptied, without empty lines at either end. -/
def unindent (lines : List String) : List String :=
  match trimLines lines with
  | [] => []
  | first :: rest =>
    let pre := rest.foldl (fun p l => if l = "" then p else commonPrefix p (leadingSpace l))
      (leadingSpace first)
    trimLines ((first :: rest).map fun l =>
      let l := if l.startsWith pre then (l.drop pre.length).toString else l
      if Unicode.trimSpace l = "" then "" else l)

def isHeading (l : String) : Bool :=
  match l.toList with
  | '#' :: c :: _ => (c = ' ' || c = '\t') && Unicode.trimSpace l != "#"
  | _ => false

def afterEach (s : List Char) (c : Char) (ok : List Char → Bool) : Bool :=
  match s with
  | [] => true
  | d :: rest => (d != c || ok rest) && afterEach rest c ok

def isOldHeading (all : Array String) (off : Nat) : Bool :=
  if off = 0 || all.getD (off - 1) "x" != "" || off + 2 ≥ all.size || all.getD (off + 1) "x" != "" ||
      leadingSpace (all.getD (off + 2) "") != "" then false
  else
    let line := (Unicode.trimSpace (all.getD off "")).toList
    match line.head?, line.getLast? with
    | some a, some z =>
      Unicode.isLetter a && Unicode.isUpper a && (Unicode.isLetter z || Unicode.isDigit z) &&
      !line.any (fun c => ";:!?+*/=[]\x7b\x7d_^°&§~%#@<\">\\".toList.contains c) &&
      afterEach line '\'' (fun b => b = ['s'] || b.take 2 = ['s', ' ']) &&
      afterEach line '.' (fun b => !b.isEmpty && b.head? != some ' ')
    | _, _ => false

def isScheme (s : List Char) : Bool :=
  ["file", "ftp", "gopher", "http", "https", "mailto", "nntp"].contains (String.ofList s)

def parseLink (line : String) : Option (String × String) :=
  match line.toList with
  | '[' :: rest =>
    let s := line.toList
    match (List.range s.length).find? (fun i => s[i]? = some ']' && s[i + 1]? = some ':') with
    | none => none
    | some i =>
      if i + 3 ≥ s.length || (s[i + 2]? != some ' ' && s[i + 2]? != some '\t') then none
      else
        let text := String.ofList ((rest.take (i - 1)))
        let url := Unicode.trimSpace (String.ofList (s.drop (i + 3)))
        let u := url.toList
        match (List.range u.length).find? (fun j => (u.drop j).take 3 = [':', '/', '/']) with
        | some j => if isScheme (u.take j) then some (text, url) else none
        | none => none
  | _ => none

def isHost (c : Char) : Bool :=
  c.isAlphanum || c = '_' || c = '@' || c = '-' || c = '.' || c = '[' || c = ']' || c = ':'

/-- Whether a character is punctuation that may stand inside a web address
but not at its end. -/
def isPunct (c : Char) : Bool :=
  c = '.' || c = ',' || c = ':' || c = ';' || c = '?' || c = '!'

def isPath (c : Char) : Bool :=
  c.isAlphanum || "$'()*+&#=@~_/-[]\x7b\x7d%".toList.contains c

/-- The length of the path of a web address at the front of a text: the
longest run of path characters whose brackets match, not ending in
punctuation. -/
def pathLength : List Char → List Char → Nat → Nat → Nat
  | [], _, _, best => best
  | c :: rest, stack, n, best =>
    if isPunct c then pathLength rest stack (n + 1) best
    else if !isPath c then best
    else
      let closing := if c = '(' then some ')' else if c = '\x7b' then some '\x7d'
        else if c = '[' then some ']' else none
      match closing with
      | some cl => pathLength rest (cl :: stack) (n + 1) best
      | none =>
        if c = ')' || c = '\x7d' || c = ']' then
          match stack with
          | top :: more =>
            if top = c then pathLength rest more (n + 1) (if more.isEmpty then n + 1 else best)
            else best
          | [] => best
        else pathLength rest stack (n + 1) (if stack.isEmpty then n + 1 else best)

/-- The web address at the front of a text, if any: a known scheme, `://`,
a host that starts and ends with no punctuation, and a path. -/
def autoUrl (s : List Char) : Option (List Char) :=
  if s.length < 7 then none
  else
    match [3, 4, 5, 6].find? (fun i => s[i]? = some ':') with
    | none => none
    | some i =>
      if (s.drop i).take 3 != [':', '/', '/'] || !isScheme (s.take i) then none
      else
        let host := s.drop (i + 3)
        match host with
        | h :: _ =>
          if !isHost h || isPunct h then none
          else
            let run := host.takeWhile isHost
            let hostEnd := run.length - ((run.reverse.takeWhile isPunct).length)
            let start := i + 3 + hostEnd
            let path := s.drop start
            some (s.take (start + pathLength path [] 0 0))
        | [] => none

/-- The identifier at the front of a text: letters, digits and underscores,
not starting with a digit. -/
def identPrefix (s : List Char) : List Char :=
  match s with
  | [] => []
  | c :: _ =>
    if c.isDigit then []
    else s.takeWhile fun d => (d.toNat < 0x80 && (d.isAlphanum || d = '_')) || (d.toNat ≥ 0x80 && Unicode.isLetter d)

/-- Where a run of backquotes that starts with three at `old` ends. The
run is read at `old` plus the count so far, which is what the count is
checked against, so past the first three the positions read run ahead of
the run itself. -/
def skipTicks (s : Array Char) (old : Nat) : Nat → Nat → Nat
  | 0, j => j
  | f + 1, j => if j < s.size - old && s.getD (old + j) ' ' = tick then skipTicks s old f (j + 1) else j

/-- Text from position `i` on with its quote pairs turned into typographic
quotes. With `auto`, web addresses and identifiers are passed over whole, so
that quotes inside an address stay as they are. -/
def quotes (auto : Bool) (s : Array Char) : Nat → Nat → List Char → List Char
  | 0, i, acc => acc.reverse ++ (s.extract i s.size).toList
  | f + 1, i, acc =>
    if i ≥ s.size then acc.reverse
    else
      let t := (s.extract i s.size).toList
      match (if auto then autoUrl t else none) with
      | some url => quotes auto s f (i + url.length) (url.reverse ++ acc)
      | none =>
        let id := if auto then identPrefix t else []
        if !id.isEmpty then quotes auto s f (i + id.length) (id.reverse ++ acc)
        else if t.take 3 = [tick, tick, tick] then
          let j := skipTicks s i s.size (i + 3)
          quotes auto s f j ((s.extract i j).toList.reverse ++ acc)
        else if t.take 2 = [tick, tick] then quotes auto s f (i + 2) ('“' :: acc)
        else if t.take 2 = ['\'', '\''] then quotes auto s f (i + 2) ('”' :: acc)
        else quotes auto s f (i + 1) (s.getD i ' ' :: acc)

def quoted (auto : Bool) (s : List Char) : List Char := quotes auto s.toArray (s.length + 1) 0 []

/-- A link definition: its text, its address, and whether a link uses it. -/
structure LinkDef where
  text : String
  url : String
  used : Bool := false

/-- The text of a paragraph with its links resolved against the
definitions, and the definitions with the ones its links name marked used.
A link is a bracketed text that the first definition of that text names; a
bracket opened again inside starts the link anew but keeps the text read so
far for the name. -/
def linkedText (defs : Array LinkDef) (text : String) : String × Array LinkDef :=
  let cs := text.toList.toArray
  let step (st : List Char × Array LinkDef × Nat × Option Nat × List Char) (i : Nat) :=
    let (out, defs, wrote, start, buf) := st
    let c := cs.getD i ' '
    let c := if c = '\n' || c = '\t' then ' ' else c
    let (out, defs, wrote, start, buf) :=
      if c = '[' then (out, defs, wrote, some i, buf)
      else if c = ']' then
        match start with
        | some st =>
          let key := String.ofList buf.reverse
          match defs.findIdx? (·.text = key) with
          | some k =>
            let before := quoted true (cs.extract wrote st).toList
            let inner := quoted false (cs.extract (st + 1) i).toList
            (out ++ before ++ ['['] ++ inner ++ [']'], defs.modify k ({ · with used := true }),
              i + 1, none, [])
          | none => (out, defs, wrote, none, [])
        | none => (out, defs, wrote, none, [])
      else (out, defs, wrote, start, buf)
    let buf := match start with
      | some st => if i != st then c :: buf else buf
      | none => buf
    (out, defs, wrote, start, buf)
  let (out, defs, wrote, _, _) := (List.range cs.size).foldl step ([], defs, 0, none, [])
  (String.ofList (out ++ quoted true (cs.extract wrote cs.size).toList), defs)

/-- A block of a doc comment. -/
inductive Block where
  | paragraph (lines : List String)
  | heading (text : String)

/-- The blocks of a comment's lines, and the link definitions met, in order. -/
def blocks (lines : Array String) : List Block × Array LinkDef :=
  let rec go : Nat → Nat → List Block → Array LinkDef → List Block × Array LinkDef
    | 0, _, acc, defs => (acc.reverse, defs)
    | f + 1, i, acc, defs =>
      if i ≥ lines.size then (acc.reverse, defs)
      else if lines.getD i "" = "" then go f (i + 1) acc defs
      else
        let stop := ((List.range (lines.size - i)).find? fun k => lines.getD (i + k) "" = "").getD (lines.size - i)
        let block := (lines.extract i (i + stop)).toList
        if stop = 1 && isHeading (lines.getD i "") then
          go f (i + 1) (.heading (Unicode.trimSpace ((lines.getD i "").drop 1).toString) :: acc) defs
        else if stop = 1 && isOldHeading lines i then
          go f (i + 1) (.heading (Unicode.trimSpace (lines.getD i "")) :: acc) defs
        else
          match block.mapM parseLink with
          | some found => go f (i + stop) acc (defs ++ (found.map fun (t, u) => ({ text := t, url := u } : LinkDef)).toArray)
          | none => go f (i + stop) (.paragraph block :: acc) defs
  go (lines.size + 1) 0 [] #[]

/-- A doc comment in its standard form, given its lines. -/
def format (group : List String) : List String :=
  let texts := group.map fun l =>
    let after := (l.drop 2).toString
    if after.startsWith " " then (after.drop 1).toString else after
  let (bs, defs) := blocks (unindent texts).toArray
  let (rendered, defs) := bs.foldl (fun (acc : List String × Array LinkDef) b =>
    match b with
    | .heading t => (acc.1 ++ ["# " ++ t], acc.2)
    | .paragraph ls =>
      let (t, defs) := linkedText acc.2 ("\n".intercalate ls)
      (acc.1 ++ [t], defs)) ([], defs)
  let defGroup (used : Bool) : String :=
    let ds := defs.toList.filter (·.used = used)
    if ds.isEmpty then "" else "\n" ++ String.join (ds.map fun d => "[" ++ d.text ++ "]: " ++ d.url ++ "\n")
  let text := (if rendered.isEmpty then "" else "\n\n".intercalate rendered ++ "\n") ++
    defGroup true ++ defGroup false
  let text := if text.endsWith "\n" then (text.dropEnd 1).toString else text
  (text.splitOn "\n").map fun l =>
    if l = "" then "//" else if l.startsWith "\t" then trimEnd ("//" ++ l) else trimEnd ("// " ++ l)

end DroneProtocol.Source.DocComment
