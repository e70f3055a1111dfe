import Std.Data.HashMap
import DroneProtocol.Schema.Compile
import DroneProtocol.Schema.Naming

/-! # Planning generated code

Every object of a compiled schema gets its identifier first (`FID`, `FEEnum`,
`FKC` with its helpers, `FMMultiset`), and a clash refuses the schema. The
plan of a feature then holds everything its file shows. -/

namespace DroneProtocol.Codegen

open Schema

/-- Why code cannot be generated. -/
inductive GenError where
  /-- Two objects would get the same identifier. -/
  | clash (ident first second : String)
  /-- A member of a multiset has an argument of that multiset. -/
  | recursive (member multiset : String)
  /-- An argument refers to a table or multiset that has no identifier. -/
  | unnamed (command arg : String)
  deriving DecidableEq, Repr, Inhabited

namespace GenError

def message : GenError → String
  | .clash i a b => "generated identifier clash: " ++ i ++ " is used by " ++ a ++ " and " ++ b
  | .recursive m s => "multiset member carries its own multiset: " ++ m ++ " in " ++ s
  | .unnamed c a => c ++ "." ++ a ++ ": reference without a generated name"

def kind? : GenError → Option String
  | .clash .. => some "errNameClash"
  | .recursive .. => some "errRecursiveMultiset"
  | .unnamed .. => none

end GenError

/-- The identifiers given so far. -/
structure Namer where
  /-- Each identifier with the schema object it names. -/
  taken : Std.HashMap String String := {}
  /-- Enum identifiers by `feature.enum`. -/
  enums : Std.HashMap String String := {}
  /-- Command identifiers by command name. -/
  commands : Std.HashMap String String := {}
  /-- Multiset identifiers by multiset name. -/
  multisets : Std.HashMap String String := {}

namespace Namer

def take (n : Namer) (ident owner : String) : Except GenError Namer :=
  match n.taken[ident]? with
  | some prev => throw (.clash ident prev owner)
  | none => pure { n with taken := n.taken.insert ident owner }

def takeAll (n : Namer) (idents : List (String × String)) : Except GenError Namer :=
  idents.foldlM (fun n (i, o) => n.take i o) n

end Namer

def featureMultisets (s : Compiled) (f : CompiledFeature) : List CompiledMultiset :=
  f.source.multisets.filterMap fun md => s.multiset? md.name

def commandIdent (prefix_ : String) (c : CompiledCommand) : String :=
  if c.cls.isEmpty then prefix_ ++ Naming.goName c.source.name
  else prefix_ ++ Naming.goName c.cls ++ Naming.goName c.source.name

/-- The seven identifiers of a command: its descriptor, its identity, its
encoder, sender, decoder and binder, and its argument record. -/
def commandIdents (prefix_ : String) (c : CompiledCommand) : List (String × String) :=
  let name := commandIdent prefix_ c
  [name, "ID" ++ name, "Encode" ++ name, "Send" ++ name, "Decode" ++ name, "On" ++ name,
    name ++ "Args"].map fun i => (i, c.desc.name)

def multisetIdent (prefix_ : String) (m : CompiledMultiset) : String :=
  prefix_ ++ Naming.goName m.source.name ++ "Multiset"

def nameEnum (fname prefix_ : String) (n : Namer) (e : CompiledEnum) : Except GenError Namer := do
  let base := prefix_ ++ Naming.goName e.source.name
  let key := fname ++ "." ++ e.source.name
  let n ← n.take (base ++ "Enum") key
  let n := { n with enums := n.enums.insert key (base ++ "Enum") }
  n.takeAll (e.source.values.map fun v => (base ++ Naming.goName v.name, key ++ "." ++ v.name))

def nameCommand (prefix_ : String) (n : Namer) (c : CompiledCommand) : Except GenError Namer := do
  let n ← n.takeAll (commandIdents prefix_ c)
  pure { n with commands := n.commands.insert c.desc.name (commandIdent prefix_ c) }

def nameMultiset (prefix_ : String) (n : Namer) (m : CompiledMultiset) : Except GenError Namer := do
  let n ← n.take (multisetIdent prefix_ m) m.source.name
  pure { n with multisets := n.multisets.insert m.source.name (multisetIdent prefix_ m) }

/-- Give identifiers to a feature's objects: the feature, its enums, its
commands, then its multisets. -/
def nameFeature (s : Compiled) (n : Namer) (f : CompiledFeature) : Except GenError Namer := do
  let fname := f.source.name
  let prefix_ := Naming.goName fname
  let n ← n.take (prefix_ ++ "ID") fname
  let n ← f.enums.foldlM (nameEnum fname prefix_) n
  let n ← f.commands.foldlM (nameCommand prefix_) n
  (featureMultisets s f).foldlM (nameMultiset prefix_) n

def nameAll (s : Compiled) : Except GenError Namer :=
  s.features.foldlM (nameFeature s) {}

/-- An enum value as its file shows it. -/
structure ValuePlan where
  const : String
  name : String
  value : Int
  deriving Repr, Inhabited

/-- An enum as its file shows it. -/
structure EnumPlan where
  ident : String
  name : String
  description : String
  bitfield : Bool
  values : List ValuePlan
  deriving Repr, Inhabited

/-- An argument as its command's helpers show it. -/
structure ArgPlan where
  name : String
  /-- The field of the decoded record. -/
  field : String
  /-- The parameter of the helpers, as bytes. -/
  param : List UInt8
  /-- The type constant. -/
  type : String
  paramType : String
  fieldType : String
  /-- The identifier of the enum table, if any. -/
  enum : String
  /-- The type constant of a bitfield's base, if any. -/
  base : String
  /-- The identifier of the multiset, if any. -/
  multiset : String
  index : Nat
  deriving Repr, Inhabited

/-- A command as its file shows it. -/
structure CommandPlan where
  ident : String
  name : String
  description : String
  deprecated : Bool
  /-- The identity as eight upper-case hexadecimal digits after `0x`. -/
  identity : String
  feature : Nat
  cls : Nat
  id : Nat
  list : String
  buffer : String
  timeout : String
  args : List ArgPlan
  deriving Repr, Inhabited

/-- A multiset as its file shows it. -/
structure MultisetPlan where
  ident : String
  name : String
  description : String
  members : List String
  deriving Repr, Inhabited

/-- A feature as its file shows it. -/
structure FeaturePlan where
  package : String
  name : String
  ident : String
  id : Nat
  description : String
  enums : List EnumPlan
  commands : List CommandPlan
  multisets : List MultisetPlan
  /-- The variable listing the commands, as bytes. -/
  commandList : List UInt8
  /-- The variable listing the multisets, as bytes. -/
  multisetList : List UInt8
  deriving Repr, Inhabited

def typeConst : ArgType → String
  | .float => "Float"
  | .double => "Double"
  | .string => "String"
  | .binary => "Binary"
  | .enum => "Enum"
  | .bitfield => "Bitfield"
  | .multiset => "MultisetArg"
  | t => t.name.toUpper

def scalarType : ArgType → String
  | .i8 => "int8"
  | .u8 => "uint8"
  | .i16 => "int16"
  | .u16 => "uint16"
  | .i32 => "int32"
  | .u32 => "uint32"
  | .i64 => "int64"
  | .u64 => "uint64"
  | .float => "float32"
  | .double => "float64"
  | .string => "string"
  | .binary => "[]byte"
  | _ => "any"

def listConst : ListKind → String
  | .item => "desc.ListItem"
  | .mapItem => "desc.ListMapItem"
  | _ => "desc.ListNone"

def bufferConst : Delivery → String
  | .nonAck => "desc.BufferNonAck"
  | .highPrio => "desc.BufferHighPrio"
  | _ => "desc.BufferAck"

def timeoutConst : TimeoutPolicy → String
  | .retry => "desc.TimeoutRetry"
  | .flush => "desc.TimeoutFlush"
  | _ => "desc.TimeoutPop"

def hex8 (n : Nat) : String :=
  let ds := (Nat.toDigits 16 n).map Char.toUpper
  "0x" ++ String.ofList (List.replicate (8 - ds.length) '0' ++ ds)

/-- The plan of one argument. -/
def planArg (n : Namer) (feature command : String) (a : Arg) (src : ArgDef) (i : Nat) :
    Except GenError ArgPlan := do
  let plan : ArgPlan :=
    { name := a.name, field := Naming.goName a.name, param := Naming.paramName a.name,
      type := "desc." ++ typeConst a.type, paramType := "", fieldType := "", enum := "", base := "",
      multiset := "", index := i }
  let plan := match a.type with
    | .enum =>
      { plan with enum := (n.enums[enumKey feature src.enum]?).getD "", paramType := "int32",
                  fieldType := "desc.EnumValue" }
    | .bitfield =>
      { plan with enum := (n.enums[enumKey feature src.enum]?).getD "",
                  base := "desc." ++ typeConst a.base, paramType := scalarType a.base,
                  fieldType := scalarType a.base }
    | .multiset =>
      { plan with multiset := ((a.multiset.bind fun r => n.multisets[r.name]?).getD ""),
                  paramType := "*wire.Multiset", fieldType := "*wire.Multiset" }
    | t => { plan with paramType := scalarType t, fieldType := scalarType t }
  if (plan.enum.isEmpty && a.enumTable.isSome) || (plan.multiset.isEmpty && a.multiset.isSome) then
    throw (.unnamed command a.name)
  pure plan

def planCommand (n : Namer) (feature : String) (c : CompiledCommand) : Except GenError CommandPlan := do
  let cmd := c.desc
  let ident := (n.commands[cmd.name]?).getD ""
  let srcArgs := c.source.args
  let args ← (cmd.args.zipIdx).mapM fun (a, i) =>
    planArg n feature cmd.name a (srcArgs[i]?.getD {}) i
  pure { ident, name := cmd.name, description := c.source.description,
         deprecated := c.source.deprecated, identity := hex8 cmd.identity.value,
         feature := cmd.feature.toNat, cls := cmd.cls.toNat, id := cmd.id.toNat,
         list := listConst cmd.list, buffer := bufferConst cmd.delivery,
         timeout := timeoutConst cmd.timeout, args }

def planEnum (n : Namer) (fname : String) (e : CompiledEnum) : EnumPlan :=
  let base := Naming.goName fname ++ Naming.goName e.source.name
  { ident := (n.enums[fname ++ "." ++ e.source.name]?).getD "", name := e.source.name,
    description := e.source.description, bitfield := e.bitfield,
    values := e.source.values.map fun v =>
      { const := base ++ Naming.goName v.name, name := v.name, value := v.value.toInt } }

/-- The member of a multiset that carries an argument of that same multiset,
if any. -/
def recursiveMember? (m : CompiledMultiset) : Option Command :=
  m.decl.members.find? fun member => member.args.any fun a => a.multiset.any (·.name == m.decl.name)

def planMultiset (n : Namer) (m : CompiledMultiset) : Except GenError MultisetPlan := do
  if let some member := recursiveMember? m then
    throw (.recursive member.name m.source.name)
  pure { ident := (n.multisets[m.source.name]?).getD "", name := m.source.name,
         description := m.source.description,
         members := m.decl.members.map fun c => (n.commands[c.name]?).getD "" }

def planFeature (s : Compiled) (n : Namer) (f : CompiledFeature) (pkg : String) :
    Except GenError FeaturePlan := do
  let fname := f.source.name
  let prefix_ := Naming.goName fname
  let enums := f.enums.map (planEnum n fname)
  let multisets ← (featureMultisets s f).mapM (planMultiset n)
  let commands ← f.commands.mapM (planCommand n fname)
  pure { package := pkg, name := fname, ident := prefix_, id := f.source.id.toNat,
         description := f.source.description, enums, commands, multisets,
         commandList := Naming.firstLower prefix_ ++ Utf8.encode "Commands",
         multisetList := Naming.firstLower prefix_ ++ Utf8.encode "Multisets" }

end DroneProtocol.Codegen
