import DroneProtocol.Source.Scanner

/-! # Syntax errors of Go source

A generated file is parsed with the toolchain's error recovery, so a file that
does not parse is reported with the same errors. Only the shape of what is
parsed is kept, which is all that recovery looks at. -/

namespace DroneProtocol.Source

/-- The shape of an expression, as far as recovery looks at it. -/
inductive Shape where
  | bad
  | ident
  | selector
  | index
  | arrayType
  | structType
  | mapType
  | other
  deriving DecidableEq, Repr, Inhabited

/-- A parsed expression: its shape once parentheses are removed, where it
starts, where its unparenthesized part starts, and whether it is
parenthesized. -/
structure Expr where
  shape : Shape
  pos : Nat
  inner : Nat
  paren : Bool := false
  deriving Repr, Inhabited

def Expr.plain (shape : Shape) (pos : Nat) : Expr := ⟨shape, pos, pos, false⟩

/-- The shape of a statement, as far as recovery looks at it. -/
inductive StmtShape where
  | expr
  | assign
  | labeled
  | bad
  | other
  deriving DecidableEq, Repr, Inhabited

/-- A parsed statement: its shape and where it starts. -/
structure Stmt where
  shape : StmtShape
  pos : Nat
  deriving Repr, Inhabited

/-- What a simple statement may be. -/
inductive StmtMode where
  | basic
  | labelOk
  deriving DecidableEq, Repr, Inhabited

/-- A parameter as written: where its name is and its type, each if any. -/
structure Param where
  name : Option Nat
  type : Option Expr
  deriving Repr, Inhabited

/-- The state of a parse. -/
structure Parser where
  sc : Scanner
  starts : Array Nat
  tok : Tok := .eof
  pos : Nat := 0
  lit : String := ""
  /-- Where recovery last stopped, and how often it stopped there. -/
  syncPos : Option Nat := none
  syncCnt : Nat := 0
  /-- Below zero inside control clauses, where a brace opens a block. -/
  exprLev : Int := 0
  /-- Whether `=` reads as `==`. -/
  inRhs : Bool := false
  deriving Inhabited

abbrev ParseM := ExceptT Unit (StateM Parser)

namespace Parser

def lineOf (p : Parser) (offs : Nat) : Nat := (position p.starts offs).1

/-- Record a report, unless the last one is on the same line; a report when
there are more than ten stops the parse. -/
def error (offs : Nat) (msg : String) : ParseM Unit := do
  let p ← get
  let n := p.sc.errors.size
  let same := match p.sc.errors.back? with
    | some (o, _) => p.lineOf o == p.lineOf offs
    | none => false
  if same then return
  if n > 10 then throw ()
  set { p with sc := p.sc.error offs msg }

/-- Report what was expected, saying what was found when the report is about
the current token. -/
def errorExpected (offs : Nat) (what : String) : ParseM Unit := do
  let p ← get
  let found :=
    if offs == p.pos then
      if p.tok == .op ";" && p.lit == "\n" then ", found newline"
      else if p.tok.isLiteral then ", found " ++ p.lit
      else ", found '" ++ p.tok.name ++ "'"
    else ""
  error offs ("expected " ++ what ++ found)

/-- Move to the next token that is not a comment. -/
def next : ParseM Unit := modify fun p =>
  let rec go : Nat → Scanner → Scanner × Token
    | 0, s => (s, ⟨.eof, s.src.size, ""⟩)
    | f + 1, s =>
      let (s, t) := s.scan
      if t.tok == .comment then go f s else (s, t)
  let (sc, t) := go (p.sc.src.size + 2) p.sc
  { p with sc, tok := t.tok, pos := t.pos, lit := t.lit }

def expect (t : Tok) : ParseM Nat := do
  let p ← get
  if p.tok != t then errorExpected p.pos ("'" ++ t.name ++ "'")
  next
  pure p.pos

def expectClosing (t : Tok) (context : String) : ParseM Unit := do
  let p ← get
  if p.tok != t && p.tok == .op ";" && p.lit == "\n" then
    error p.pos ("missing ',' before newline in " ++ context)
    next
  discard (expect t)

/-- Skip to a token of a set, unless recovery already stopped at it without
progress. -/
def advance (target : Tok → Bool) : ParseM Unit := do
  let rec go : Nat → ParseM Unit
    | 0 => pure ()
    | f + 1 => do
      let p ← get
      if p.tok == .eof then return
      if target p.tok then
        if some p.pos == p.syncPos && p.syncCnt < 10 then
          set { p with syncCnt := p.syncCnt + 1 }
          return
        if p.syncPos.all (· < p.pos) then
          set { p with syncPos := some p.pos, syncCnt := 0 }
          return
      next
      go f
  go ((← get).sc.src.size + 2)

def stmtStart : Tok → Bool
  | .keyword k => ["break", "const", "continue", "defer", "fallthrough", "for", "go", "goto", "if",
      "return", "select", "switch", "type", "var"].contains k
  | _ => false

def declStart : Tok → Bool
  | .keyword k => ["import", "const", "type", "var"].contains k
  | _ => false

def exprEnd : Tok → Bool
  | .op o => [",", ":", ";", ")", "]", "\x7d"].contains o
  | _ => false

/-- Consume the end of a statement: a semicolon, or nothing before a closing
parenthesis or brace. -/
def expectSemi : ParseM Unit := do
  let p ← get
  match p.tok with
  | .op ")" | .op "\x7d" => pure ()
  | .op "," =>
    errorExpected p.pos "';'"
    next
  | .op ";" => next
  | _ =>
    errorExpected p.pos "';'"
    advance stmtStart

/-- Whether a list goes on: at a comma, or at anything but its closing token,
which is reported as a missing comma. -/
def atComma (context : String) (follow : Tok) : ParseM Bool := do
  let p ← get
  if p.tok == .op "," then return true
  if p.tok != follow then
    let msg := if p.tok == .op ";" && p.lit == "\n" then "missing ',' before newline" else "missing ','"
    error p.pos (msg ++ " in " ++ context)
    return true
  return false

def parseIdent : ParseM Expr := do
  let p ← get
  if p.tok == .ident then next else discard (expect .ident)
  pure (.plain .ident p.pos)

def parseIdentList : ParseM Nat := do
  discard parseIdent
  let rec go : Nat → Nat → ParseM Nat
    | 0, n => pure n
    | f + 1, n => do
      if (← get).tok == .op "," then
        next
        discard parseIdent
        go f (n + 1)
      else pure n
  go ((← get).sc.src.size + 2) 1

def precedence : Tok → Nat
  | .op "||" => 1
  | .op "&&" => 2
  | .op "==" | .op "!=" | .op "<" | .op "<=" | .op ">" | .op ">=" => 3
  | .op "+" | .op "-" | .op "|" | .op "^" => 4
  | .op "*" | .op "/" | .op "%" | .op "<<" | .op ">>" | .op "&" | .op "&^" => 5
  | _ => 0

def isAssign : Tok → Bool
  | .op o => [":=", "=", "+=", "-=", "*=", "/=", "%=", "&=", "|=", "^=", "<<=", ">>=", "&^="].contains o
  | _ => false

def shiftLevel (d : Int) : ParseM Unit := modify fun p => { p with exprLev := p.exprLev + d }

def parseImportSpec : ParseM Unit := do
  let p ← get
  if p.tok == .ident then discard parseIdent
  else if p.tok == .op "." then next
  let p ← get
  if p.tok == .string then next
  else if p.tok.isLiteral then
    error p.pos "import path must be a string"
    next
  else
    error p.pos "missing import path"
    advance exprEnd
  expectSemi

def checkParams (params : List Param) : ParseM Unit := do
  let named := (params.filter fun q => q.name.isSome && q.type.isSome).length
  let typed := (params.filter fun q => q.type.isSome).length
  if params.isEmpty || named == 0 || named == params.length then return
  let step (acc : Option Nat × Option Expr) (q : Param) : Option Nat × Option Expr :=
    let (errPos, typ) := acc
    match q.type with
    | some t => (if q.name.isNone then some t.pos else errPos, some t)
    | none => if typ.isSome then (errPos, typ) else (q.name, typ)
  let (errPos, _) := params.reverse.foldl step (none, none)
  match errPos with
  | none => pure ()
  | some e =>
    if named == typed then error (← get).pos "missing parameter type"
    else error e "missing parameter name"

mutual

def parseType : Nat → ParseM Expr
  | 0 => throw ()
  | f + 1 => do
    match ← tryIdentOrType f with
    | some t => pure t
    | none =>
      let pos := (← get).pos
      errorExpected pos "type"
      advance exprEnd
      pure (.plain .bad pos)

/-- A type, if one starts here. -/
def tryIdentOrType : Nat → ParseM (Option Expr)
  | 0 => throw ()
  | f + 1 => do
    let p ← get
    match p.tok with
    | .ident =>
      let t ← parseTypeName f none
      if (← get).tok == .op "[" then some <$> parseTypeInstance f t else pure (some t)
    | .op "[" =>
      let lb ← expect (.op "[")
      some <$> parseArrayType f lb
    | .keyword "struct" => some <$> parseStructType f
    | .op "*" =>
      next
      discard (parseType f)
      pure (some (.plain .other p.pos))
    | .keyword "func" => some <$> parseFuncType f
    | .keyword "interface" =>
      next
      discard (expect (.op "\x7b"))
      parseMethods f
      discard (expect (.op "\x7d"))
      pure (some (.plain .other p.pos))
    | .keyword "map" =>
      next
      discard (expect (.op "["))
      discard (parseType f)
      discard (expect (.op "]"))
      discard (parseType f)
      pure (some (.plain .mapType p.pos))
    | .keyword "chan" =>
      next
      if (← get).tok == .op "<-" then next
      discard (parseType f)
      pure (some (.plain .other p.pos))
    | .op "<-" =>
      next
      discard (expect (.keyword "chan"))
      discard (parseType f)
      pure (some (.plain .other p.pos))
    | .op "(" =>
      next
      let t ← parseType f
      discard (expect (.op ")"))
      pure (some { t with pos := p.pos, paren := true })
    | _ => pure none

def parseMethods : Nat → ParseM Unit
  | 0 => throw ()
  | f + 1 => do
    let t := (← get).tok
    if t == .op "\x7d" || t == .eof then return
    if t == .ident then
      discard parseIdent
      if (← get).tok == .op "(" then
        parseParameters f
        discard (parseResult f)
    else discard (parseType f)
    expectSemi
    parseMethods f

def parseTypeName : Nat → Option Expr → ParseM Expr
  | 0, _ => throw ()
  | _ + 1, ident => do
    let id ← match ident with
      | some i => pure i
      | none => parseIdent
    if (← get).tok == .op "." then
      next
      discard parseIdent
      pure (.plain .selector id.pos)
    else pure id

def parseTypeInstance : Nat → Expr → ParseM Expr
  | 0, _ => throw ()
  | f + 1, t => do
    discard (expect (.op "["))
    shiftLevel 1
    let n ← typeArgs f 0
    shiftLevel (-1)
    let closing := (← get).pos
    expectClosing (.op "]") "type argument list"
    if n == 0 then errorExpected closing "type argument list"
    pure (.plain .index t.pos)

def typeArgs : Nat → Nat → ParseM Nat
  | 0, _ => throw ()
  | f + 1, n => do
    let t := (← get).tok
    if t == .op "]" || t == .eof then return n
    discard (parseType f)
    if !(← atComma "type argument list" (.op "]")) then return n + 1
    next
    typeArgs f (n + 1)

def parseArrayType : Nat → Nat → ParseM Expr
  | 0, _ => throw ()
  | f + 1, lbrack => do
    shiftLevel 1
    let t := (← get).tok
    if t == .op "..." then next
    else if t != .op "]" then discard (parseRhs f)
    shiftLevel (-1)
    let p ← get
    if p.tok == .op "," then
      error p.pos "unexpected comma; expecting ]"
      next
    discard (expect (.op "]"))
    discard (parseType f)
    pure (.plain .arrayType lbrack)

def parseStructType : Nat → ParseM Expr
  | 0 => throw ()
  | f + 1 => do
    let pos ← expect (.keyword "struct")
    discard (expect (.op "\x7b"))
    parseFields f
    discard (expect (.op "\x7d"))
    pure (.plain .structType pos)

def parseFields : Nat → ParseM Unit
  | 0 => throw ()
  | f + 1 => do
    let t := (← get).tok
    if t == .ident || t == .op "*" || t == .op "(" then
      parseFieldDecl f
      parseFields f

def fieldNames : Nat → Nat → ParseM Nat
  | 0, _ => throw ()
  | f + 1, n => do
    if (← get).tok == .op "," then
      next
      discard parseIdent
      fieldNames f (n + 1)
    else pure n

/-- A field of a struct type. -/
def parseFieldDecl : Nat → ParseM Unit
  | 0 => throw ()
  | f + 1 => do
    let p ← get
    match p.tok with
    | .ident =>
      let name ← parseIdent
      let t := (← get).tok
      if t == .op "." || t == .string || t == .op ";" || t == .op "\x7d" then
        if t == .op "." then discard (parseQualifiedIdent f (some name))
      else
        let n ← fieldNames f 1
        if n == 1 && (← get).tok == .op "[" then discard (parseArrayFieldOrTypeInstance f name)
        else discard (parseType f)
    | .op "*" =>
      next
      if (← get).tok == .op "(" then
        error (← get).pos "cannot parenthesize embedded type"
        next
        discard (parseQualifiedIdent f none)
        if (← get).tok == .op ")" then next
      else discard (parseQualifiedIdent f none)
    | .op "(" =>
      error p.pos "cannot parenthesize embedded type"
      next
      if (← get).tok == .op "*" then next
      discard (parseQualifiedIdent f none)
      if (← get).tok == .op ")" then next
    | _ =>
      errorExpected p.pos "field name or embedded type"
      advance exprEnd
    if (← get).tok == .string then next
    expectSemi

def parseQualifiedIdent : Nat → Option Expr → ParseM Expr
  | 0, _ => throw ()
  | f + 1, ident => do
    let t ← parseTypeName f ident
    if (← get).tok == .op "[" then parseTypeInstance f t else pure t

/-- After a name and an opening bracket: an array or slice type of a named
field or parameter, or an instance of a generic type. Returns where the name
is, when it names a field or parameter, and the type. -/
def parseArrayFieldOrTypeInstance : Nat → Expr → ParseM (Option Nat × Expr)
  | 0, _ => throw ()
  | f + 1, x => do
    let lbrack ← expect (.op "[")
    let (n, trailing) ← if (← get).tok != .op "]" then do
        shiftLevel 1
        discard (parseRhs f)
        let r ← arrayArgs f 1
        shiftLevel (-1)
        pure r
      else pure (0, none)
    discard (expect (.op "]"))
    if n == 0 then
      discard (parseType f)
      return (some x.pos, .plain .arrayType lbrack)
    if n == 1 then
      if let some _ ← tryIdentOrType f then
        if let some c := trailing then error c "unexpected comma; expecting ]"
        return (some x.pos, .plain .arrayType lbrack)
    return (none, .plain .index x.pos)

/-- The arguments between brackets after the first; returns how many there
are and where a trailing comma is. -/
def arrayArgs : Nat → Nat → ParseM (Nat × Option Nat)
  | 0, _ => throw ()
  | f + 1, n => do
    let p ← get
    if p.tok != .op "," then return (n, none)
    next
    if (← get).tok == .op "]" then return (n, some p.pos)
    discard (parseRhs f)
    arrayArgs f (n + 1)

def parseDotsType : Nat → ParseM Expr
  | 0 => throw ()
  | f + 1 => do
    let pos ← expect (.op "...")
    discard (parseType f)
    pure (.plain .other pos)

def parseFuncType : Nat → ParseM Expr
  | 0 => throw ()
  | f + 1 => do
    let pos ← expect (.keyword "func")
    parseParameters f
    discard (parseResult f)
    pure (.plain .other pos)

def parseParameters : Nat → ParseM Unit
  | 0 => throw ()
  | f + 1 => do
    discard (expect (.op "("))
    if (← get).tok != .op ")" then
      let params ← paramList f []
      checkParams params
    discard (expect (.op ")"))

def paramList : Nat → List Param → ParseM (List Param)
  | 0, _ => throw ()
  | f + 1, acc => do
    let t := (← get).tok
    if t == .op ")" || t == .eof then return acc.reverse
    let q ← parseParamDecl f
    let acc := if q.name.isSome || q.type.isSome then q :: acc else acc
    if !(← atComma "parameter list" (.op ")")) then return acc.reverse
    next
    paramList f acc

/-- One parameter: a name, a type, or both. -/
def parseParamDecl : Nat → ParseM Param
  | 0 => throw ()
  | f + 1 => do
    let p ← get
    match p.tok with
    | .ident =>
      let name ← parseIdent
      match (← get).tok with
      | .ident | .op "*" | .op "<-" | .keyword "func" | .keyword "chan" | .keyword "map"
      | .keyword "struct" | .keyword "interface" | .op "(" =>
        let t ← parseType f
        pure ⟨some name.pos, some t⟩
      | .op "[" =>
        let (n, t) ← parseArrayFieldOrTypeInstance f name
        pure ⟨n, some t⟩
      | .op "..." =>
        let t ← parseDotsType f
        pure ⟨some name.pos, some t⟩
      | .op "." =>
        let t ← parseQualifiedIdent f (some name)
        pure ⟨none, some t⟩
      | _ => pure ⟨some name.pos, none⟩
    | .op "*" | .op "<-" | .keyword "func" | .op "[" | .keyword "chan" | .keyword "map"
    | .keyword "struct" | .keyword "interface" | .op "(" =>
      let t ← parseType f
      pure ⟨none, some t⟩
    | .op "..." =>
      let t ← parseDotsType f
      pure ⟨none, some t⟩
    | _ =>
      errorExpected p.pos "')'"
      advance exprEnd
      pure ⟨none, none⟩

def parseResult : Nat → ParseM Unit
  | 0 => throw ()
  | f + 1 => do
    if (← get).tok == .op "(" then parseParameters f
    else discard (tryIdentOrType f)

def parseExpr : Nat → ParseM Expr
  | 0 => throw ()
  | f + 1 => parseBinaryExpr f none 1

def parseRhs : Nat → ParseM Expr
  | 0 => throw ()
  | f + 1 => do
    let old := (← get).inRhs
    modify fun p => { p with inRhs := true }
    let x ← parseExpr f
    modify fun p => { p with inRhs := old }
    pure x

def parseList : Nat → Bool → ParseM (List Expr)
  | 0, _ => throw ()
  | f + 1, rhs => do
    let old := (← get).inRhs
    modify fun p => { p with inRhs := rhs }
    let x ← parseExpr f
    let xs ← moreExprs f [x]
    modify fun p => { p with inRhs := old }
    pure xs

def moreExprs : Nat → List Expr → ParseM (List Expr)
  | 0, _ => throw ()
  | f + 1, acc => do
    if (← get).tok == .op "," then
      next
      let x ← parseExpr f
      moreExprs f (acc ++ [x])
    else pure acc

def parseBinaryExpr : Nat → Option Expr → Nat → ParseM Expr
  | 0, _, _ => throw ()
  | f + 1, x, prec1 => do
    let x ← match x with
      | some x => pure x
      | none => parseUnaryExpr f
    binaryTail f x prec1

def binaryTail : Nat → Expr → Nat → ParseM Expr
  | 0, _, _ => throw ()
  | f + 1, x, prec1 => do
    let p ← get
    let op := if p.inRhs && p.tok == .op "=" then Tok.op "==" else p.tok
    let prec := precedence op
    if prec < prec1 then return x
    discard (expect op)
    discard (parseBinaryExpr f none (prec + 1))
    binaryTail f (.plain .other x.pos) prec1

def parseUnaryExpr : Nat → ParseM Expr
  | 0 => throw ()
  | f + 1 => do
    let p ← get
    match p.tok with
    | .op "+" | .op "-" | .op "!" | .op "^" | .op "&" | .op "~" | .op "<-" | .op "*" =>
      next
      discard (parseUnaryExpr f)
      pure (.plain .other p.pos)
    | _ => parsePrimaryExpr f

def parsePrimaryExpr : Nat → ParseM Expr
  | 0 => throw ()
  | f + 1 => do
    let x ← parseOperand f
    primaryTail f x

/-- The selectors, indexes, calls and literal values after an operand. -/
def primaryTail : Nat → Expr → ParseM Expr
  | 0, _ => throw ()
  | f + 1, x => do
    let p ← get
    match p.tok with
    | .op "." =>
      next
      let q ← get
      if q.tok == .ident then
        discard parseIdent
        primaryTail f (.plain .selector x.pos)
      else if q.tok == .op "(" then
        parseTypeAssertion f
        primaryTail f (.plain .other x.pos)
      else
        errorExpected q.pos "selector or type assertion"
        if (← get).tok != .op "\x7d" then next
        primaryTail f (.plain .selector x.pos)
    | .op "[" =>
      let y ← parseIndexOrSlice f x
      primaryTail f y
    | .op "(" =>
      parseCall f
      primaryTail f (.plain .other x.pos)
    | .op "\x7b" =>
      let literal := match x.shape with
        | .bad | .ident | .selector | .index => p.exprLev ≥ 0
        | .arrayType | .structType | .mapType => true
        | .other => false
      if !literal then return x
      if x.paren then error x.inner "cannot parenthesize type in composite literal"
      parseLiteralValue f
      primaryTail f (.plain .other x.pos)
    | _ => return x

/-- An operand. -/
def parseOperand : Nat → ParseM Expr
  | 0 => throw ()
  | f + 1 => do
    let p ← get
    match p.tok with
    | .ident => parseIdent
    | .int | .float | .imag | .char | .string =>
      next
      pure (.plain .other p.pos)
    | .op "(" =>
      next
      shiftLevel 1
      let x ← parseRhs f
      shiftLevel (-1)
      discard (expect (.op ")"))
      pure { x with pos := p.pos, paren := true }
    | .keyword "func" =>
      let t ← parseFuncType f
      if (← get).tok != .op "\x7b" then return t
      shiftLevel 1
      parseBlock f
      shiftLevel (-1)
      pure (.plain .other t.pos)
    | _ =>
      match ← tryIdentOrType f with
      | some t => pure t
      | none =>
        errorExpected p.pos "operand"
        advance stmtStart
        pure (.plain .bad p.pos)

def parseTypeAssertion : Nat → ParseM Unit
  | 0 => throw ()
  | f + 1 => do
    discard (expect (.op "("))
    if (← get).tok == .keyword "type" then next else discard (parseType f)
    discard (expect (.op ")"))

/-- An index, slice or instance after an operand. -/
def parseIndexOrSlice : Nat → Expr → ParseM Expr
  | 0, _ => throw ()
  | f + 1, x => do
    discard (expect (.op "["))
    let p ← get
    if p.tok == .op "]" then
      errorExpected p.pos "operand"
      next
      return .plain .index x.pos
    shiftLevel 1
    if p.tok != .op ":" then discard (parseRhs f)
    let q ← get
    let colons ← if q.tok == .op ":" then sliceIndexes f [] else pure []
    if q.tok == .op "," then instanceArgs f
    shiftLevel (-1)
    discard (expect (.op "]"))
    if colons.isEmpty then return .plain .index x.pos
    if colons.length == 2 then
      match colons with
      | [(c0, i1), (c1, i2)] =>
        if !i1 then error c0 "middle index required in 3-index slice"
        if !i2 then error c1 "final index required in 3-index slice"
      | _ => pure ()
    return .plain .other x.pos

def sliceIndexes : Nat → List (Nat × Bool) → ParseM (List (Nat × Bool))
  | 0, _ => throw ()
  | f + 1, acc => do
    let p ← get
    if p.tok != .op ":" || acc.length ≥ 2 then return acc
    next
    let t := (← get).tok
    let has := t != .op ":" && t != .op "]" && t != .eof
    if has then discard (parseRhs f)
    sliceIndexes f (acc ++ [(p.pos, has)])

def instanceArgs : Nat → ParseM Unit
  | 0 => throw ()
  | f + 1 => do
    if (← get).tok == .op "," then
      next
      let t := (← get).tok
      if t != .op "]" && t != .eof then discard (parseType f)
      instanceArgs f

def parseCall : Nat → ParseM Unit
  | 0 => throw ()
  | f + 1 => do
    discard (expect (.op "("))
    shiftLevel 1
    callArgs f false
    shiftLevel (-1)
    expectClosing (.op ")") "argument list"

/-- The arguments of a call, until its closing parenthesis or a variadic
argument. -/
def callArgs : Nat → Bool → ParseM Unit
  | 0, _ => throw ()
  | f + 1, ellipsis => do
    let t := (← get).tok
    if t == .op ")" || t == .eof || ellipsis then return
    discard (parseRhs f)
    let dots := (← get).tok == .op "..."
    if dots then next
    if !(← atComma "argument list" (.op ")")) then return
    next
    callArgs f dots

def parseLiteralValue : Nat → ParseM Unit
  | 0 => throw ()
  | f + 1 => do
    discard (expect (.op "\x7b"))
    shiftLevel 1
    if (← get).tok != .op "\x7d" then parseElements f
    shiftLevel (-1)
    expectClosing (.op "\x7d") "composite literal"

def parseElements : Nat → ParseM Unit
  | 0 => throw ()
  | f + 1 => do
    let t := (← get).tok
    if t == .op "\x7d" || t == .eof then return
    parseValue f
    if (← get).tok == .op ":" then
      next
      parseValue f
    if !(← atComma "composite literal" (.op "\x7d")) then return
    next
    parseElements f

def parseValue : Nat → ParseM Unit
  | 0 => throw ()
  | f + 1 => do
    if (← get).tok == .op "\x7b" then parseLiteralValue f else discard (parseExpr f)

def parseBlock : Nat → ParseM Unit
  | 0 => throw ()
  | f + 1 => do
    discard (expect (.op "\x7b"))
    parseStmtList f
    discard (expect (.op "\x7d"))

def parseStmtList : Nat → ParseM Unit
  | 0 => throw ()
  | f + 1 => do
    let t := (← get).tok
    if t == .keyword "case" || t == .keyword "default" || t == .op "\x7d" || t == .eof then return
    discard (parseStmt f)
    parseStmtList f

/-- A statement. -/
def parseStmt : Nat → ParseM Stmt
  | 0 => throw ()
  | f + 1 => do
    let p ← get
    match p.tok with
    | .keyword "const" | .keyword "type" | .keyword "var" =>
      parseDecl f stmtStart
      pure ⟨.other, p.pos⟩
    | .ident | .int | .float | .imag | .char | .string | .keyword "func" | .op "(" | .op "["
    | .keyword "struct" | .keyword "map" | .keyword "chan" | .keyword "interface"
    | .op "+" | .op "-" | .op "*" | .op "&" | .op "^" | .op "<-" | .op "!" =>
      let s ← parseSimpleStmt f .labelOk
      if s.shape != .labeled then expectSemi
      pure s
    | .keyword "go" | .keyword "defer" =>
      next
      discard (parseRhs f)
      expectSemi
      pure ⟨.other, p.pos⟩
    | .keyword "return" =>
      next
      let t := (← get).tok
      if t != .op ";" && t != .op "\x7d" then discard (parseList f true)
      expectSemi
      pure ⟨.other, p.pos⟩
    | .keyword k@"break" | .keyword k@"continue" | .keyword k@"goto" | .keyword k@"fallthrough" =>
      next
      if k != "fallthrough" && (← get).tok == .ident then discard parseIdent
      expectSemi
      pure ⟨.other, p.pos⟩
    | .op "\x7b" =>
      parseBlock f
      expectSemi
      pure ⟨.other, p.pos⟩
    | .keyword "if" =>
      parseIf f
      pure ⟨.other, p.pos⟩
    | .keyword "switch" | .keyword "select" | .keyword "for" =>
      next
      let old := (← get).exprLev
      modify fun q => { q with exprLev := -1 }
      if (← get).tok != .op "\x7b" then discard (parseSimpleStmt f .basic)
      if (← get).tok == .op ";" then
        next
        if (← get).tok != .op "\x7b" then discard (parseSimpleStmt f .basic)
      modify fun q => { q with exprLev := old }
      parseBlock f
      expectSemi
      pure ⟨.other, p.pos⟩
    | .op ";" =>
      next
      pure ⟨.other, p.pos⟩
    | .op "\x7d" => pure ⟨.other, p.pos⟩
    | _ =>
      errorExpected p.pos "statement"
      advance stmtStart
      pure ⟨.bad, p.pos⟩

/-- A simple statement: an expression, an assignment, a label, a send or an
increment. -/
def parseSimpleStmt : Nat → StmtMode → ParseM Stmt
  | 0, _ => throw ()
  | f + 1, mode => do
    let xs ← parseList f false
    let x0 := xs.headD (.plain .bad (← get).pos)
    let p ← get
    if isAssign p.tok then
      next
      discard (parseList f true)
      return ⟨.assign, x0.pos⟩
    if xs.length > 1 then errorExpected x0.pos "1 expression"
    match p.tok with
    | .op ":" =>
      next
      if mode == .labelOk && x0.shape == .ident && !x0.paren then
        discard (parseStmt f)
        return ⟨.labeled, x0.pos⟩
      error p.pos "illegal label declaration"
      return ⟨.bad, x0.pos⟩
    | .op "<-" =>
      next
      discard (parseRhs f)
      return ⟨.other, x0.pos⟩
    | .op "++" | .op "--" =>
      next
      return ⟨.other, x0.pos⟩
    | _ => return ⟨.expr, x0.pos⟩

def parseIf : Nat → ParseM Unit
  | 0 => throw ()
  | f + 1 => do
    discard (expect (.keyword "if"))
    parseIfHeader f
    parseBlock f
    if (← get).tok == .keyword "else" then
      next
      match (← get).tok with
      | .keyword "if" => parseIf f
      | .op "\x7b" =>
        parseBlock f
        expectSemi
      | _ => errorExpected (← get).pos "if statement or block"
    else expectSemi

/-- The initializer and condition of an if statement. -/
def parseIfHeader : Nat → ParseM Unit
  | 0 => throw ()
  | f + 1 => do
    let p ← get
    if p.tok == .op "\x7b" then
      error p.pos "missing condition in if statement"
      return
    let prevLev := p.exprLev
    modify fun q => { q with exprLev := -1 }
    let init ← if (← get).tok != .op ";" then do
        if (← get).tok == .keyword "var" then
          next
          error (← get).pos "var declaration not allowed in if initializer"
        some <$> parseSimpleStmt f .basic
      else pure none
    let (cond, semi) ← if (← get).tok != .op "\x7b" then do
        let q ← get
        let semi ← if q.tok == .op ";" then do
            next
            pure (some (q.pos, q.lit))
          else do
            discard (expect (.op ";"))
            pure none
        let cond ← if (← get).tok != .op "\x7b" then some <$> parseSimpleStmt f .basic else pure none
        pure (cond, semi)
      else pure (init, none)
    match cond with
    | some s =>
      if s.shape != .expr then
        let found := if s.shape == .assign then "assignment" else "simple statement"
        error s.pos ("expected boolean expression, found " ++ found ++
          " (missing parentheses around composite literal?)")
    | none =>
      match semi with
      | some (pos, lit) =>
        if lit == "\n" then error pos "unexpected newline, expecting \x7b after if clause"
        else error pos "missing condition in if statement"
      | none => pure ()
    modify fun q => { q with exprLev := prevLev }

def parseDecl : Nat → (Tok → Bool) → ParseM Unit
  | 0, _ => throw ()
  | f + 1, sync => do
    let p ← get
    match p.tok with
    | .keyword k@"import" | .keyword k@"const" | .keyword k@"var" | .keyword k@"type" =>
      parseGenDecl f k
    | .keyword "func" => parseFuncDecl f
    | _ =>
      errorExpected p.pos "declaration"
      advance sync

def parseGenDecl : Nat → String → ParseM Unit
  | 0, _ => throw ()
  | f + 1, kw => do
    discard (expect (.keyword kw))
    if (← get).tok == .op "(" then
      next
      parseSpecs f kw
      discard (expect (.op ")"))
      expectSemi
    else parseSpec f kw

def parseSpecs : Nat → String → ParseM Unit
  | 0, _ => throw ()
  | f + 1, kw => do
    let t := (← get).tok
    if t == .op ")" || t == .eof then return
    parseSpec f kw
    parseSpecs f kw

/-- One spec of a declaration. -/
def parseSpec : Nat → String → ParseM Unit
  | 0, _ => throw ()
  | f + 1, kw => do
    if kw == "import" then parseImportSpec
    else if kw == "type" then
      discard parseIdent
      let p ← get
      if p.tok == .op "[" then
        next
        discard (parseArrayType f p.pos)
      else
        if p.tok == .op "=" then next
        discard (parseType f)
      expectSemi
    else
      discard parseIdentList
      if kw == "const" then
        let t := (← get).tok
        if t != .eof && t != .op ";" && t != .op ")" then
          discard (tryIdentOrType f)
          if (← get).tok == .op "=" then
            next
            discard (parseList f true)
      else
        if (← get).tok != .op "=" then discard (parseType f)
        if (← get).tok == .op "=" then
          next
          discard (parseList f true)
      expectSemi

/-- A function declaration. -/
def parseFuncDecl : Nat → ParseM Unit
  | 0 => throw ()
  | f + 1 => do
    discard (expect (.keyword "func"))
    if (← get).tok == .op "(" then parseParameters f
    discard parseIdent
    parseParameters f
    parseResult f
    match (← get).tok with
    | .op "\x7b" =>
      parseBlock f
      expectSemi
    | .op ";" =>
      next
      if (← get).tok == .op "\x7b" then
        error (← get).pos "unexpected semicolon or newline before \x7b"
        parseBlock f
        expectSemi
    | _ => expectSemi

end

def parseDecls : Nat → Tok → ParseM Unit
  | 0, _ => throw ()
  | f + 1, prev => do
    let p ← get
    if p.tok == .eof then return
    if p.tok == .keyword "import" && prev != .keyword "import" then
      error p.pos "imports must appear before other declarations"
    parseDecl f declStart
    parseDecls f p.tok

def parseImports : Nat → ParseM Unit
  | 0 => throw ()
  | f + 1 => do
    if (← get).tok == .keyword "import" then
      parseGenDecl f "import"
      parseImports f

/-- A source file: its package clause, then, when that has no errors, its
imports and declarations. -/
def parseFile (fuel : Nat) : ParseM Unit := do
  next
  if !(← get).sc.errors.isEmpty then return
  discard (expect (.keyword "package"))
  discard parseIdent
  expectSemi
  if !(← get).sc.errors.isEmpty then return
  parseImports fuel
  parseDecls fuel (.keyword "import")

end Parser

/-- A syntax error: line, column (in bytes) and message. -/
structure SyntaxError where
  line : Nat
  column : Nat
  message : String
  deriving DecidableEq, Repr, Inhabited

/-- Whether one report comes before another: by line, column, then message. -/
def SyntaxError.before (a b : SyntaxError) : Bool :=
  a.line < b.line || (a.line == b.line && (a.column < b.column ||
    (a.column == b.column && decide (a.message ≤ b.message))))

def syntaxErrors (src : ByteArray) : List SyntaxError :=
  let starts := lineStarts src
  let p : Parser := { sc := Scanner.start src, starts }
  let fuel := 64 * (src.size + 16)
  let (_, p) := (Parser.parseFile fuel).run p
  let errs := p.sc.errors.toList.map fun (o, m) =>
    let (line, column) := position starts o
    ({ line, column, message := m } : SyntaxError)
  errs.mergeSort SyntaxError.before

/-- The report of a list of syntax errors in a file: the first, and how many
more there are. -/
def errorsText (file : String) (errs : List SyntaxError) : String :=
  match errs with
  | [] => "no errors"
  | e :: rest =>
    let first := file ++ ":" ++ toString e.line ++ ":" ++ toString e.column ++ ": " ++ e.message
    if rest.isEmpty then first
    else first ++ " (and " ++ toString rest.length ++ " more errors)"

end DroneProtocol.Source
