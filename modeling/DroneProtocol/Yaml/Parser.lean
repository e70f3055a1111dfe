import DroneProtocol.Yaml.Scanner

/-! # Parsing YAML tokens into a node tree

A recursive descent over the first document of a stream, with anchors, aliases
and tags expanded by the `%TAG` directives. Each call consumes a token or
stops its loop, so the fuel is a multiple of the text length. -/

namespace DroneProtocol.Yaml

/-- A node of a YAML document. A mapping holds its keys and values in
alternation. A tag is the node's explicit tag in its short form, empty when
it has none. An alias carries its name, a number of its own, and the index
of the node it names in the document's table of anchored nodes. -/
inductive Node where
  | scalar (text : String) (style : Style) (tag : String) (mark : Mark)
  | sequence (items : List Node) (tag : String) (mark : Mark)
  | mapping (entries : List Node) (tag : String) (mark : Mark)
  | alias (name : String) (id : Nat) (target : Nat) (mark : Mark)
  deriving Repr, Inhabited

def Node.mark : Node → Mark
  | .scalar _ _ _ m | .sequence _ _ m | .mapping _ _ m | .alias _ _ _ m => m

def Node.line (n : Node) : Nat := n.mark.line + 1

/-- An empty plain scalar at a position. -/
def Node.empty (m : Mark) : Node := .scalar "" .plain "" m

/-- A parsed document: its root and its anchored nodes. -/
structure Document where
  root : Node
  anchored : Array Node
  deriving Repr, Inhabited

def Token.isAny (t : Token) (kinds : List Tok) : Bool := kinds.contains t.tok

def Token.isDirective (t : Token) : Bool :=
  match t.tok with
  | .versionDirective .. | .tagDirective .. => true
  | _ => false

def longTagPrefix : String := "tag:yaml.org,2002:"

def shortTag (tag : String) : String :=
  if tag.startsWith longTagPrefix then "!!" ++ (tag.drop longTagPrefix.length).toString else tag

/-- What the parser keeps besides the scanner: the anchors met so far, most
recent first, with the indices of their nodes; the anchored nodes; how many
aliases have been met; and the tag directives of the document. -/
structure Anchors where
  names : List (String × Nat) := []
  nodes : Array Node := #[]
  aliases : Nat := 0
  directives : List (String × String) := []
  deriving Repr, Inhabited

abbrev ParseM := StateT Anchors ScanM

namespace Parser

open Scanner

def fail {α : Type} (context : String) (contextMark : Mark) (problem : String)
    (problemMark : Mark) : ParseM α :=
  throw (.parser context contextMark problem problemMark)

def missingNode {α : Type} (block : Bool) (start : Mark) (t : Token) : ParseM α :=
  fail (if block then "while parsing a block node" else "while parsing a flow node")
    start "did not find expected node content" t.start

def exhausted {α : Type} : ParseM α := throw (.other "document nesting exceeds its text")

def peek : ParseM Token := StateT.lift peekToken

def take : ParseM Token := StateT.lift takeToken

/-- The anchor and tag in front of a node, in either order, with where the
node starts and where its tag starts. -/
def properties : ParseM (Option String × Option (String × String) × Mark × Mark) := do
  let t ← peek
  match t.tok with
  | .anchor name =>
    let _ ← take
    let u ← peek
    match u.tok with
    | .tag h s => let _ ← take; pure (some name, some (h, s), t.start, u.start)
    | _ => pure (some name, none, t.start, t.start)
  | .tag h s =>
    let _ ← take
    let u ← peek
    match u.tok with
    | .anchor name => let _ ← take; pure (some name, some (h, s), t.start, t.start)
    | _ => pure (none, some (h, s), t.start, t.start)
  | _ => pure (none, none, t.start, t.start)

/-- The full tag a handle and suffix stand for under the document's
directives, in its short form; empty for the non-specific tag `!`. -/
def expandTag (start tagMark : Mark) : Option (String × String) → ParseM String
  | none => pure ""
  | some (handle, suffix) => do
    let full ← if handle.isEmpty then pure suffix
      else match (← get).directives.lookup handle with
        | some pre => pure (pre ++ suffix)
        | none => fail "while parsing a node" start "found undefined tag handle" tagMark
    pure (if full = "!" then "" else shortTag full)

/-- Give an anchor the next slot of the table of anchored nodes; the node is
put there when it is complete. -/
def reserve : Option String → ParseM (Option Nat)
  | none => pure none
  | some name => do
    let st ← get
    set { st with names := (name, st.nodes.size) :: st.names, nodes := st.nodes.push default }
    pure (some st.nodes.size)

def fill (slot : Option Nat) (n : Node) : ParseM Node := do
  if let some k := slot then modify fun st => { st with nodes := st.nodes.setIfInBounds k n }
  pure n

mutual

/-- A node; `block` allows block collections, `indentless` a sequence at
the indentation of the mapping it is a value of. -/
def node (block indentless : Bool) : Nat → ParseM Node
  | 0 => exhausted
  | n + 1 => do
    let t0 ← peek
    if let .alias name := t0.tok then
      let _ ← take
      let st ← get
      match st.names.lookup name with
      | some k =>
        set { st with aliases := st.aliases + 1 }
        return .alias name st.aliases k t0.start
      | none => throw (.other ("unknown anchor '" ++ name ++ "' referenced"))
    let (anchor, tagged, start, tagMark) ← properties
    let tag ← expandTag start tagMark tagged
    let t ← peek
    let slot ← reserve anchor
    let result ← match t.tok with
      | .blockEntry =>
        if indentless then indentlessItems tag start n []
        else if anchor.isSome || tagged.isSome then pure (.scalar "" .plain tag start)
        else missingNode block start t
      | .scalar text style => do let _ ← take; pure (.scalar text style tag start)
      | .flowSequenceStart => do let _ ← take; flowSequenceItems tag start n true []
      | .flowMappingStart => do let _ ← take; flowMappingEntries tag start n true []
      | .blockSequenceStart =>
        if block then do let _ ← take; blockSequenceItems tag start n []
        else if anchor.isSome || tagged.isSome then pure (.scalar "" .plain tag start)
        else missingNode block start t
      | .blockMappingStart =>
        if block then do let _ ← take; blockMappingEntries tag start n []
        else if anchor.isSome || tagged.isSome then pure (.scalar "" .plain tag start)
        else missingNode block start t
      | _ =>
        if anchor.isSome || tagged.isSome then pure (.scalar "" .plain tag start)
        else missingNode block start t
    fill slot result

def blockSequenceItems (tag : String) (start : Mark) : Nat → List Node → ParseM Node
  | 0, _ => exhausted
  | n + 1, acc => do
    let t ← peek
    match t.tok with
    | .blockEntry =>
      let _ ← take
      let u ← peek
      let item ← if u.isAny [.blockEntry, .blockEnd] then pure (Node.empty t.stop)
        else node true false n
      blockSequenceItems tag start n (item :: acc)
    | .blockEnd => do let _ ← take; pure (.sequence acc.reverse tag start)
    | _ => fail "while parsing a block collection" start "did not find expected '-' indicator" t.start

def indentlessItems (tag : String) (start : Mark) : Nat → List Node → ParseM Node
  | 0, _ => exhausted
  | n + 1, acc => do
    let t ← peek
    match t.tok with
    | .blockEntry =>
      let _ ← take
      let u ← peek
      let item ← if u.isAny [.blockEntry, .key, .value, .blockEnd] then pure (Node.empty t.stop)
        else node true false n
      indentlessItems tag start n (item :: acc)
    | _ => pure (.sequence acc.reverse tag start)

/-- The entries of a block mapping after its start token. -/
def blockMappingEntries (tag : String) (start : Mark) : Nat → List Node → ParseM Node
  | 0, _ => exhausted
  | n + 1, acc => do
    let t ← peek
    match t.tok with
    | .key =>
      let _ ← take
      let u ← peek
      let key ← if u.isAny [.key, .value, .blockEnd] then pure (Node.empty t.stop)
        else node true true n
      let v ← peek
      let value ← if v.tok = .value then do
          let _ ← take
          let w ← peek
          if w.isAny [.key, .value, .blockEnd] then pure (Node.empty v.stop)
          else node true true n
        else pure (Node.empty v.start)
      blockMappingEntries tag start n (value :: key :: acc)
    | .blockEnd => do let _ ← take; pure (.mapping acc.reverse tag start)
    | _ => fail "while parsing a block mapping" start "did not find expected key" t.start

/-- The entries of a flow sequence after its opening bracket. -/
def flowSequenceItems (tag : String) (start : Mark) : Nat → Bool → List Node → ParseM Node
  | 0, _, _ => exhausted
  | n + 1, first, acc => do
    let t0 ← peek
    if t0.tok = .flowSequenceEnd then
      let _ ← take
      return .sequence acc.reverse tag start
    let t ← if first then pure t0
      else if t0.tok = .flowEntry then do let _ ← take; peek
      else fail "while parsing a flow sequence" start "did not find expected ',' or ']'" t0.start
    match t.tok with
    | .flowSequenceEnd => do let _ ← take; pure (.sequence acc.reverse tag start)
    | .key =>
      let _ ← take
      let pair ← flowPair t.start n
      flowSequenceItems tag start n false (pair :: acc)
    | _ =>
      let item ← node false false n
      flowSequenceItems tag start n false (item :: acc)

def flowPair (start : Mark) : Nat → ParseM Node
  | 0 => exhausted
  | n + 1 => do
    let u ← peek
    let key ← if u.isAny [.value, .flowEntry, .flowSequenceEnd] then do
        let _ ← take
        pure (Node.empty u.stop)
      else node false false n
    let v ← peek
    let value ← if v.tok = .value then do
        let _ ← take
        let w ← peek
        if w.isAny [.flowEntry, .flowSequenceEnd] then pure (Node.empty v.start)
        else node false false n
      else pure (Node.empty v.start)
    pure (.mapping [key, value] "" start)

/-- The entries of a flow mapping after its opening brace. -/
def flowMappingEntries (tag : String) (start : Mark) : Nat → Bool → List Node → ParseM Node
  | 0, _, _ => exhausted
  | n + 1, first, acc => do
    let t0 ← peek
    if t0.tok = .flowMappingEnd then
      let _ ← take
      return .mapping acc.reverse tag start
    let t ← if first then pure t0
      else if t0.tok = .flowEntry then do let _ ← take; peek
      else fail "while parsing a flow mapping" start "did not find expected \x27,\x27 or \x27\x7d\x27" t0.start
    match t.tok with
    | .flowMappingEnd => do let _ ← take; pure (.mapping acc.reverse tag start)
    | .key =>
      let _ ← take
      let u ← peek
      let key ← if u.isAny [.value, .flowEntry, .flowMappingEnd] then pure (Node.empty u.start)
        else node false false n
      let v ← peek
      let value ← if v.tok = .value then do
          let _ ← take
          let w ← peek
          if w.isAny [.flowEntry, .flowMappingEnd] then pure (Node.empty w.start)
          else node false false n
        else pure (Node.empty v.start)
      flowMappingEntries tag start n false (value :: key :: acc)
    | _ =>
      let key ← node false false n
      let v ← peek
      flowMappingEntries tag start n false (Node.empty v.start :: key :: acc)

end

def defaultDirectives : List (String × String) := [("!", "!"), ("!!", longTagPrefix)]

/-- Read the directives in front of a document, then add the standard ones
that the document does not redefine. -/
def directives : Nat → Bool → ParseM Unit
  | 0, _ => exhausted
  | n + 1, versionSeen => do
    let t ← peek
    match t.tok with
    | .versionDirective major minor =>
      if versionSeen then fail "" {} "found duplicate %YAML directive" t.start
      if major ≠ 1 || minor ≠ 1 then fail "" {} "found incompatible YAML document" t.start
      let _ ← take
      directives n true
    | .tagDirective handle pre =>
      if ((← get).directives.lookup handle).isSome then fail "" {} "found duplicate %TAG directive" t.start
      modify fun st => { st with directives := st.directives ++ [(handle, pre)] }
      let _ ← take
      directives n versionSeen
    | _ =>
      modify fun st =>
        let added := defaultDirectives.filter fun d => (st.directives.lookup d.1).isNone
        { st with directives := st.directives ++ added }

/-- The root node of the first document, if the stream has one. -/
def firstDocument (fuel : Nat) : ParseM (Option Node) := do
  let _ ← take
  let t ← peek
  if t.tok = .streamEnd then return none
  if t.tok = .documentStart || t.isDirective then
    directives fuel false
    let u ← peek
    if u.tok ≠ .documentStart then fail "" {} "did not find expected <document start>" u.start
    let _ ← take
    let v ← peek
    let root ← if v.isDirective || v.isAny [.documentStart, .documentEnd, .streamEnd] then
        pure (Node.empty v.start)
      else node true false fuel
    finish root
  else
    directives fuel false
    let root ← node true false fuel
    finish root
where
  finish (root : Node) : ParseM (Option Node) := do
    let e ← peek
    if e.tok = .documentEnd then let _ ← take
    pure (some root)

end Parser

def allowedChar (c : Char) : Bool :=
  let v := c.toNat
  v = 0x09 || v = 0x0A || v = 0x0D || (0x20 ≤ v && v ≤ 0x7E) || v = 0x85 ||
    (0xA0 ≤ v && v ≤ 0xD7FF) || (0xE000 ≤ v && v ≤ 0xFFFD) || (0x10000 ≤ v && v ≤ 0x10FFFF)

/-- The chunks the characters of a text are read in: windows of 512 bytes,
each starting where the last character read ends and ending before a
character the window cuts. Each is given by the index of the character it
ends before and whether it holds a character that is not allowed. The first
window also covers the `skipped` bytes of a byte order mark. -/
def chunks (chars : List Char) (skipped : Nat) : List (Nat × Bool) :=
  let step (st : List (Nat × Bool) × Nat × Nat × Nat × Bool) (c : Char) :=
    let (acc, index, offset, limit, bad) := st
    let w := (String.utf8EncodeChar c).length
    if offset + w > limit then
      (acc ++ [(index, bad)], index + 1, offset + w, offset + 512, !allowedChar c)
    else (acc, index + 1, offset + w, limit, bad || !allowedChar c)
  let (acc, index, _, _, bad) := chars.foldl step ([], 0, skipped, 512, false)
  acc ++ [(index, bad)]

/-- Read the first document of a YAML text; an empty text reads as one line
break, and a byte order mark at the start is dropped. -/
def readDocument (text : String) : Except Error (Option Document) := do
  let chars0 := if text.isEmpty then ['\n'] else text.toList
  let (chars, skipped) := match chars0 with
    | '\uFEFF' :: rest => (rest, 3)
    | cs => (cs, 0)
  let s : Scanner := { input := chars.toArray, chunks := chunks chars skipped }
  let fuel := 4 * chars.length + 16
  let (root, st) ← ((Parser.firstDocument fuel).run {}).run' s
  pure (root.map fun r => { root := r, anchored := st.nodes })

end DroneProtocol.Yaml
