import DroneProtocol.Schema.Read
import DroneProtocol.Descriptor.Table

/-! # Compiling feature definitions into a table

Every feature, enum and multiset is declared first, so references may point
forward and across features; then commands are built, multisets filled with
their members, and everything validated as a descriptor table. -/

namespace DroneProtocol.Schema

/-- A compiled enum table. -/
structure CompiledEnum where
  source : EnumDef
  table : EnumTable
  bitfield : Bool := false
  deriving Repr, Inhabited

/-- A compiled command; `cls` is empty for classless commands. -/
structure CompiledCommand where
  source : CommandDef
  desc : Command
  cls : String
  deriving Repr, Inhabited

/-- A compiled feature, its enums and commands in declaration order. -/
structure CompiledFeature where
  source : FeatureDef
  enums : List CompiledEnum
  commands : List CompiledCommand
  deriving Repr, Inhabited

/-- A compiled multiset with the feature that declares it. -/
structure CompiledMultiset where
  source : MultisetDef
  decl : MultisetDecl
  owner : String
  deriving Repr, Inhabited

/-- The compiled form of a set of feature definitions. -/
structure Compiled where
  table : Table
  features : List CompiledFeature
  multisets : List CompiledMultiset
  deriving Repr, Inhabited

def Compiled.multiset? (c : Compiled) (name : String) : Option CompiledMultiset :=
  c.multisets.find? (·.decl.name == name)

/-- The state of a compilation: enums by `feature.Enum` key, declared
multisets, and commands by full name (the first of a name is kept). -/
structure Compiler where
  enums : List (String × CompiledEnum) := []
  multisets : List CompiledMultiset := []
  byName : List (String × Command) := []
  deriving Inhabited

def EnumDef.toTable (e : EnumDef) : EnumTable := ⟨e.name, e.values.map fun v => ⟨v.name, v.value⟩⟩

def declareEnum (fname : String) (c : Compiler) (e : EnumDef) : Except SchemaError Compiler := do
  let key := fname ++ "." ++ e.name
  if (c.enums.lookup key).isSome then throw (.duplicateEnum key)
  pure { c with enums := c.enums ++ [(key, { source := e, table := e.toTable })] }

/-- Declare a multiset of feature `owner`, keyed by its place among all
declarations. -/
def declareMultiset (owner : String) (c : Compiler) (m : MultisetDef) :
    Except SchemaError Compiler := do
  if c.multisets.any (·.decl.name == m.name) then throw (.table (.multisetTwice m.name))
  let decl : MultisetDecl := ⟨m.name, c.multisets.length, []⟩
  pure { c with multisets := c.multisets ++ [{ source := m, decl, owner }] }

/-- Declare a feature whose name is not among those seen: its enums, then its
multisets. -/
def declareFeature (acc : Compiler × List String) (d : FeatureDef) :
    Except SchemaError (Compiler × List String) := do
  if acc.2.contains d.name then throw (.duplicateFeature d.name)
  let c ← d.enums.foldlM (declareEnum d.name) acc.1
  let c ← d.multisets.foldlM (declareMultiset d.name) c
  pure (c, d.name :: acc.2)

def declare (defs : List FeatureDef) : Except SchemaError Compiler := do
  let acc ← defs.foldlM declareFeature ({}, [])
  pure acc.1

def parseBuffer : String → Option Delivery
  | "" | "ack" => some .ack
  | "non_ack" => some .nonAck
  | "high_prio" => some .highPrio
  | _ => none

def parseTimeout : String → Option TimeoutPolicy
  | "" | "pop" => some .pop
  | "retry" => some .retry
  | "flush" => some .flush
  | _ => none

def parseList : String → Option ListKind
  | "" | "none" => some .none
  | "list_item" => some .item
  | "map_item" => some .mapItem
  | _ => none

/-- The key of the enum a reference names, unqualified references being in
the feature `feature`. -/
def enumKey (feature ref : String) : String :=
  if ref.contains '.' then ref else feature ++ "." ++ ref

namespace Compiler

def lookupEnum (c : Compiler) (feature ref : String) : Option (String × CompiledEnum) :=
  let key := enumKey feature ref
  (c.enums.lookup key).map fun e => (key, e)

def markBitfield (c : Compiler) (key : String) : Compiler :=
  { c with enums := c.enums.map fun (k, e) => if k == key then (k, { e with bitfield := true }) else (k, e) }

/-- Compile one argument of a command of `feature`. -/
def compileArg (c : Compiler) (feature command : String) (ad : ArgDef) :
    Except SchemaError (Compiler × Arg) := do
  let some t := ArgType.ofName? ad.type | throw (.unknownType command ad.name ad.type)
  let arg : Arg := { name := ad.name, type := t }
  match t with
  | .enum | .bitfield =>
    let some (key, e) := c.lookupEnum feature ad.enum | throw (.unknownEnum command ad.name ad.enum)
    let arg := { arg with enumTable := some e.table }
    if t == .bitfield then
      let c := c.markBitfield key
      let base := if ad.base.isEmpty then "u32" else ad.base
      let some b := ArgType.ofName? base | throw (.unknownBase command ad.name ad.base)
      pure (c, { arg with base := b })
    else pure (c, arg)
  | .multiset =>
    let some m := c.multisets.find? (·.decl.name == ad.multiset)
      | throw (.unknownMultiset command ad.name ad.multiset)
    pure (c, { arg with multiset := some m.decl.ref })
  | _ => pure (c, arg)

def compileArgStep (feature command : String) (acc : Compiler × List Arg) (ad : ArgDef) :
    Except SchemaError (Compiler × List Arg) := do
  let r ← acc.1.compileArg feature command ad
  pure (r.1, acc.2 ++ [r.2])

/-- Compile one command of a feature, in a class or not. -/
def compileCommand (c : Compiler) (d : FeatureDef) (cls : String) (clsId : UInt8)
    (cd : CommandDef) : Except SchemaError (Compiler × CompiledCommand) := do
  let name := if cls.isEmpty then d.name ++ "." ++ cd.name else d.name ++ "." ++ cls ++ "." ++ cd.name
  let some delivery := parseBuffer cd.buffer | throw (.invalidOption name "buffer" cd.buffer)
  let some timeout := parseTimeout cd.timeout | throw (.invalidOption name "timeout" cd.timeout)
  let some list := parseList cd.list | throw (.invalidOption name "list" cd.list)
  let acc ← cd.args.foldlM (compileArgStep d.name name) (c, [])
  let cmd : Command := { name, feature := d.id, cls := clsId, id := cd.id, args := acc.2,
                         list, delivery, timeout }
  let c := if (acc.1.byName.lookup name).isNone then { acc.1 with byName := acc.1.byName ++ [(name, cmd)] }
    else acc.1
  pure (c, { source := cd, desc := cmd, cls })

def compileStep (d : FeatureDef) (cls : String) (clsId : UInt8)
    (acc : Compiler × List CompiledCommand) (cd : CommandDef) :
    Except SchemaError (Compiler × List CompiledCommand) := do
  let r ← acc.1.compileCommand d cls clsId cd
  pure (r.1, acc.2 ++ [r.2])

def compileClass (d : FeatureDef) (acc : Compiler × List CompiledCommand) (k : ClassDef) :
    Except SchemaError (Compiler × List CompiledCommand) :=
  k.commands.foldlM (compileStep d k.name k.id) acc

/-- Compile the commands of a feature: those listed directly, then those of
each class. -/
def compileFeature (c : Compiler) (d : FeatureDef) :
    Except SchemaError (Compiler × List CompiledCommand) := do
  if !d.classes.isEmpty && !d.commands.isEmpty then throw (.mixedLayout d.name)
  let acc ← d.commands.foldlM (compileStep d "" 0) (c, [])
  d.classes.foldlM (compileClass d) acc

def addMember (mname : String) (c : Compiler) (member : String) : Except SchemaError Compiler := do
  let some cmd := c.byName.lookup member | throw (.unknownMember member mname)
  pure { c with multisets := c.multisets.map fun m =>
    if m.decl.name == mname then { m with decl := { m.decl with members := m.decl.members ++ [cmd] } }
    else m }

def resolveMembers (c : Compiler) (defs : List FeatureDef) : Except SchemaError Compiler :=
  defs.foldlM (fun c d => d.multisets.foldlM (fun c md => md.members.foldlM (addMember md.name) c) c) c

end Compiler

def compileNext (acc : Compiler × List (List CompiledCommand)) (d : FeatureDef) :
    Except SchemaError (Compiler × List (List CompiledCommand)) := do
  let r ← acc.1.compileFeature d
  pure (r.1, acc.2 ++ [r.2])

def compile (defs : List FeatureDef) : Except SchemaError Compiled := do
  let c ← declare defs
  let acc ← defs.foldlM compileNext (c, [])
  let done ← acc.1.resolveMembers defs
  let drafts : List MultisetDraft := done.multisets.map fun m =>
    ⟨m.decl.name, m.decl.key, m.decl.members.map some⟩
  let cmds := acc.2.flatten.map fun cc => some cc.desc
  let declared := defs.flatMap fun d => d.multisets.filterMap fun md =>
    drafts.find? (·.name == md.name)
  let table ← match Table.build drafts cmds (declared.map some) with
    | .ok t => pure t
    | .error e => throw (.table e)
  let features := (defs.zip acc.2).map fun (d, cs) =>
    { source := d, commands := cs,
      enums := d.enums.filterMap fun e => done.enums.lookup (d.name ++ "." ++ e.name) }
  pure { table, features, multisets := done.multisets }

end DroneProtocol.Schema
