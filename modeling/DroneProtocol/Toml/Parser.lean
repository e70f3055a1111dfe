import DroneProtocol.Toml.Value
import DroneProtocol.Toml.Scalar

/-! # Parsing TOML documents

The parser builds the document table in a context set by headers and dotted
keys; implicit tables may be defined once, keys set once. Errors name the line
and the last key the parser had seen. -/

namespace DroneProtocol.Toml

/-- A parse failure with its line and the key the parser was at. -/
structure ParseError where
  message : String
  line : Nat
  lastKey : String
  deriving DecidableEq, Repr, Inhabited

def ParseError.text (e : ParseError) : String :=
  if e.lastKey.isEmpty then "toml: line " ++ toString e.line ++ ": " ++ e.message
  else "toml: line " ++ toString e.line ++ " (last key " ++ Quoted.ofString e.lastKey ++ "): " ++
    e.message

/-- What the parser records about a key. -/
structure KeyInfo where
  /-- Whether the value is an array (not an array of tables). -/
  array : Bool
  line : Nat
  deriving DecidableEq, Repr, Inhabited

/-- A parsed document. -/
structure Document where
  root : TomlTable
  /-- Per dotted key, what was recorded about it. -/
  info : List (String × KeyInfo)
  /-- Keys and table headers in the order they appear. -/
  ordered : List (List String)
  deriving Repr, Inhabited

/-- The state of the parser. -/
structure Parser where
  items : List Item
  failure : Option LexError
  context : List String := []
  currentKey : String := ""
  root : TomlTable := []
  info : List (String × KeyInfo) := []
  ordered : Array (List String) := #[]
  implicits : List String := []
  /-- The line of the last item that starts a key or header. -/
  line : Nat := 0
  deriving Repr, Inhabited

abbrev ParseM := ExceptT ParseError (StateM Parser)

namespace Parser

def current (p : Parser) : String :=
  if p.currentKey.isEmpty then keyText p.context
  else if p.context.isEmpty then p.currentKey
  else keyText p.context ++ "." ++ p.currentKey

def raise {α : Type} (msg : String) : ParseM α := do
  let p ← get
  throw ⟨msg, p.line, p.current⟩

def raiseAt {α : Type} (it : Item) (msg : String) : ParseM α := do
  throw ⟨msg, it.line, (← get).current⟩

def atItem {α : Type} (it : Item) (r : Except String α) : ParseM α :=
  match r with
  | .ok a => pure a
  | .error msg => raiseAt it msg

def liftTable {α : Type} (r : Except String α) : ParseM α :=
  match r with
  | .ok a => pure a
  | .error msg => raise msg

def next : ParseM Item := do
  let p ← get
  match p.items with
  | it :: rest =>
    set { p with items := rest }
    pure it
  | [] =>
    match p.failure with
    | some e => throw ⟨e.message, e.line, p.current⟩
    | none => pure ⟨.eof, "", p.line⟩

def nextPos : ParseM Item := do
  let it ← next
  modify fun p => { p with line := it.line }
  pure it

def skipComment : ParseM Unit := do
  let _ ← next
  pure ()

def infoOf (p : Parser) (key : List String) : Option KeyInfo := p.info.lookup (keyText key)

def addImplicit (key : List String) : ParseM Unit :=
  modify fun p => { p with implicits := keyText key :: p.implicits }

def setType (key : String) (array : Bool) (line : Nat) : ParseM Unit := modify fun p =>
  let path := p.context ++ (if key.isEmpty then [] else [key])
  let path := if path.isEmpty then [""] else path
  let name := keyText path
  { p with info := (name, ⟨array, line⟩) :: p.info.filter (·.1 ≠ name) }

/-- Set a key of the context. A key set before may only be set again when it
holds an array, or when it is a table created implicitly, which is then
left as it is. -/
def setValue (key : String) (v : TomlValue) : ParseM Unit := do
  let p ← get
  let path := p.context ++ [key]
  let name := keyText path
  let here ← liftTable (TomlTable.tableAt? [] p.context p.root)
  let write : ParseM Unit := do
    let (root, _) ← liftTable (TomlTable.alter (fun _ => "") (fun h => pure (h.put key v)) []
      (← get).context (← get).root)
    modify fun p => { p with root }
  match here.find? key with
  | none => write
  | some _ =>
    if (p.infoOf path).any (·.array) then
      modify fun p => { p with implicits := p.implicits.filter (· ≠ name) }
      write
    else if p.implicits.contains name then
      modify fun p => { p with implicits := p.implicits.filter (· ≠ name) }
    else raise ("Key '" ++ name ++ "' has already been defined.")

/-- Enter a table, creating its parents implicitly; for an array of tables,
start a new table in it. -/
def addContext (key : List String) (array : Bool) : ParseM Unit := do
  let parents := key.dropLast
  let last := key.getLast?.getD ""
  let (root, made) ← liftTable (TomlTable.alter
    (fun path => "Key '" ++ keyText path ++ "' was already created as a hash.") pure [] parents
    (← get).root)
  modify fun p => { p with root, implicits := made.map keyText ++ p.implicits, context := parents }
  if array then
    let (root, _) ← liftTable (TomlTable.alter (fun _ => "") (fun h =>
      match h.find? last with
      | none => pure (h.put last (.tables [[]]))
      | some (.tables us) => pure (h.put last (.tables (us ++ [[]])))
      | some _ => throw ("Key '" ++ keyText key ++ "' was already created and cannot be used as an array."))
      [] parents (← get).root)
    modify fun p => { p with root }
  else setValue last (.table [])
  modify fun p => { p with context := parents ++ [last] }

def addImplicitContext (key : List String) : ParseM Unit := do
  addImplicit key
  addContext key false

def keyPart (it : Item) : ParseM String :=
  match it.kind with
  | .text => pure it.text
  | _ => atItem it (stringValue it)

def readKey (stop : ItemKind) : Nat → ParseM (List String)
  | 0 => pure []
  | n + 1 => do
    let first ← nextPos
    go first n
where
  go (it : Item) : Nat → ParseM (List String)
    | 0 => pure []
    | n + 1 => do
      if it.kind = stop || it.kind = .eof then return []
      let part ← keyPart it
      pure (part :: (← go (← next) n))

def enterParents (parents : List String) : ParseM Unit := do
  for c in parents do
    addImplicitContext ((← get).context ++ [c])

mutual

/-- The value starting with an item, and whether it is an array. -/
def value : Nat → Item → Bool → ParseM (TomlValue × Bool)
  | 0, _, _ => raise "document nested too deeply"
  | n + 1, it, inArray =>
    match it.kind with
    | .string | .rawString | .escapedString | .multilineString | .rawMultilineString => do
      pure (.string (← atItem it (stringValue it)), false)
    | .integer => do pure (.integer (← atItem it (integerValue it.text)), false)
    | .float => do
      atItem it (checkFloat it.text)
      pure (.float it.text, false)
    | .bool => pure (.boolean (it.text = "true"), false)
    | .datetime => do
      atItem it (checkDatetime it.text)
      pure (.datetime (canonicalDatetime it.text), false)
    | .arrayStart => do
      setType (← get).currentKey true it.line
      pure (.array (← arrayItems n), true)
    | .inlineTableStart => inlineTable n inArray
    | _ => raise ("Unexpected value type: " ++ it.text)

def arrayItems : Nat → ParseM (List TomlValue)
  | 0 => raise "document nested too deeply"
  | n + 1 => do
    let it ← next
    match it.kind with
    | .arrayEnd => pure []
    | .commentStart =>
      skipComment
      arrayItems n
    | _ =>
      let (v, _) ← value n it true
      pure (v :: (← arrayItems n))

/-- An inline table: its keys are set under the key being set, which is
created implicitly. -/
def inlineTable (n : Nat) (inArray : Bool) : ParseM (TomlValue × Bool) := do
  let p ← get
  let outerContext := p.context
  let outerKey := p.currentKey
  let ctx := p.context ++ [p.currentKey]
  set { p with context := ctx, currentKey := "" }
  addImplicit ctx
  addContext ctx inArray
  let top ← inlineEntries n ctx []
  modify fun p => { p with context := outerContext, currentKey := outerKey }
  pure (.table top, false)

/-- The entries of an inline table, up to its end. -/
def inlineEntries : Nat → List String → TomlTable → ParseM TomlTable
  | 0, _, _ => raise "document nested too deeply"
  | n + 1, ctx, top => do
    let it ← next
    match it.kind with
    | .inlineTableEnd => pure top
    | .commentStart =>
      skipComment
      inlineEntries n ctx top
    | _ =>
      let key ← readKey .keyEnd n
      let last := key.getLast?.getD ""
      modify fun p => { p with currentKey := last }
      enterParents key.dropLast
      modify fun p => { p with ordered := p.ordered.push (p.context ++ [last]) }
      let (v, isArray) ← value n (← next) false
      setValue last v
      setType last isArray it.line
      let top ← match top.nest last v key.dropLast with
        | some t => pure t
        | none => raise (Quoted.ofString (keyText (← get).context) ++ " is not a table")
      modify fun p => { p with context := ctx }
      inlineEntries n ctx top

end

/-- Read one top-level item: a comment, a table header or a key with its
value. -/
def topLevel (n : Nat) (it : Item) : ParseM Unit := do
  match it.kind with
  | .commentStart => skipComment
  | .tableStart | .arrayTableStart =>
    let array := it.kind = .arrayTableStart
    let key ← readKey (if array then .arrayTableEnd else .tableEnd) n
    addContext key array
    setType "" false it.line
    modify fun p => { p with ordered := p.ordered.push key }
  | .keyStart =>
    let outer := (← get).context
    let key ← readKey .keyEnd n
    let last := key.getLast?.getD ""
    modify fun p => { p with currentKey := last }
    enterParents key.dropLast
    modify fun p => { p with ordered := p.ordered.push (p.context ++ [last]) }
    let vItem ← next
    let (v, isArray) ← value n vItem false
    setValue last v
    setType last isArray vItem.line
    modify fun p => { p with context := outer, currentKey := "" }
  | _ => raise ("Unexpected type at top level: " ++ it.text)

/-- Read top-level items up to the end of input. -/
def document : Nat → ParseM Unit
  | 0 => pure ()
  | n + 1 => do
    let it ← nextPos
    if it.kind = .eof then return
    topLevel n it
    document n

end Parser

/-- Parse a document. A byte order mark at the start is skipped; a NUL byte in
the first six bytes is refused, since it means the text is not UTF-8. -/
def parse (s : String) : Except ParseError Document :=
  let s := if s.startsWith "\uFEFF" then String.ofList (s.toList.drop 1) else s
  if ((Utf8.encode s).take 6).contains 0 then
    .error ⟨"files cannot contain NULL bytes; probably using UTF-16; TOML files must be UTF-8",
      1, ""⟩
  else
    let (items, failure) := lex s
    let p : Parser := { items, failure }
    match (Parser.document (items.length + 2)).run.run p with
    | (.ok _, p) => .ok { root := p.root, info := p.info, ordered := p.ordered.toList }
    | (.error e, _) => .error e

end DroneProtocol.Toml
