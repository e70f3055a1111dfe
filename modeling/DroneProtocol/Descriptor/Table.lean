import DroneProtocol.Descriptor.TableError

/-! # Descriptor tables

A table is a validated set of command descriptors with the multisets they
register. `Table.build` checks the commands in order and stops at the first
failure; decoding follows a reference to any multiset it points to, registered
or not. -/

namespace DroneProtocol

/-- A class of a feature with its commands. -/
structure ClassInfo where
  name : String
  id : UInt8
  isDefault : Bool
  commands : List Command
  deriving Repr, Inhabited

/-- A feature with its classes. -/
structure FeatureInfo where
  name : String
  id : UInt8
  classes : List ClassInfo
  deriving Repr, Inhabited

/-- Whether a feature declares no classes: its only class is the default one. -/
def FeatureInfo.classless (f : FeatureInfo) : Bool :=
  match f.classes with
  | [c] => c.isDefault
  | _ => false

def FeatureInfo.cls? (f : FeatureInfo) (name : String) : Option ClassInfo :=
  f.classes.find? (·.name == name)

def ClassInfo.command? (c : ClassInfo) (name : String) : Option Command :=
  c.commands.find? (·.shortName == name)

/-- A multiset declaration before validation; a member may be missing. -/
structure MultisetDraft where
  name : String
  key : Nat
  members : List (Option Command)
  deriving Repr, Inhabited

def MultisetDraft.decl? (d : MultisetDraft) : Option MultisetDecl :=
  (d.members.mapM id).map (⟨d.name, d.key, ·⟩)

/-- A validated set of descriptors. `multisets` are the registered multisets;
`declarations` are all those that the references of the commands point to,
registered or not, and decoding follows a reference there. -/
structure Table where
  commands : List Command
  features : List FeatureInfo
  multisets : Catalog
  declarations : Catalog
  deriving Repr, Inhabited

namespace Table

def empty : Table := ⟨[], [], [], []⟩

/-- The feature, class and short name a command is filed under, and whether
the class is its feature's default one. Every component must be non-empty;
`feature.command` names the default class and needs class id 0. -/
def place (cmd : Command) : Except TableError (String × String × String × Bool) := do
  let parts := cmd.name.splitOn "."
  if parts.any (·.isEmpty) then throw (.emptyComponent cmd.name)
  match parts with
  | [f, n] =>
    if cmd.cls ≠ 0 then throw (.classlessWithClass cmd.name cmd.cls)
    else pure (f, defaultClassName, n, true)
  | [f, k, n] => pure (f, k, n, false)
  | _ => throw (.badPath cmd.name)

/-- The feature named `fname` that a command joins: the one already filed,
which must carry the command's feature id, or a new one with that id, which
no other feature may carry. -/
def featureFor (t : Table) (cmd : Command) (fname : String) : Except TableError FeatureInfo :=
  match t.features.find? (·.name == fname) with
  | none =>
    match t.features.find? (·.id == cmd.feature) with
    | some other => throw (.featureIdTaken cmd.name cmd.feature other.name)
    | none => pure { name := fname, id := cmd.feature, classes := [] }
  | some f =>
    if f.id ≠ cmd.feature then throw (.featureIdMismatch cmd.name fname f.id cmd.feature)
    else pure f

/-- The class named `kname` of a feature that a command joins: the one already
filed, which must carry the command's class id and be default exactly when
the command names the default class, or a new one, whose id no other class
of the feature may carry. -/
def classFor (feature : FeatureInfo) (cmd : Command) (kname : String) (isDefault : Bool) :
    Except TableError ClassInfo :=
  match feature.cls? kname with
  | none =>
    match feature.classes.find? (·.id == cmd.cls) with
    | some other => throw (.classIdTaken cmd.name cmd.cls feature.name other.name)
    | none => pure { name := kname, id := cmd.cls, isDefault, commands := [] }
  | some c =>
    if c.id ≠ cmd.cls ∨ c.isDefault ≠ isDefault then
      throw (.classIdMismatch cmd.name feature.name kname c.id cmd.cls)
    else pure c

/-- Put `x` in place of the entries with its name, or after all entries when
none has it. -/
def refile {α : Type} (name : α → String) (x : α) (l : List α) : List α :=
  if l.any (name · == name x) then l.map fun y => if name y == name x then x else y
  else l ++ [x]

def add (t : Table) (cmd : Command) : Except TableError Table := do
  let id := cmd.identity
  if let some prev := t.commands.find? (·.identity == id) then
    throw (.duplicateIdentity cmd.name id prev.name)
  let (fname, kname, short, isDefault) ← place cmd
  let feature ← t.featureFor cmd fname
  let cls ← classFor feature cmd kname isDefault
  if (cls.command? short).isSome then throw (.duplicateCommand cmd.name)
  let cls := { cls with commands := cls.commands ++ [cmd] }
  let feature := { feature with classes := refile (·.name) cls feature.classes }
  pure { t with commands := t.commands ++ [cmd], features := refile (·.name) feature t.features }

end Table

/-- Check that names and values of an enum table are unique and, for a
bitfield of `bits` bits, that every value is a bit index below `bits`. -/
def EnumTable.check (e : EnumTable) (bits : Nat) : Except TableError Unit :=
  go e.values [] []
where
  go : List EnumEntry → List String → List Int32 → Except TableError Unit
    | [], _, _ => pure ()
    | v :: rest, names, values =>
      if v.name.isEmpty then throw (.unnamedValue e.name v.value)
      else if names.contains v.name then throw (.duplicateValueName e.name v.name)
      else if values.contains v.value then throw (.duplicateValue e.name v.value)
      else if 0 < bits ∧ (v.value.toInt < 0 ∨ bits ≤ v.value.toInt) then
        throw (.flagOutOfRange e.name v.name bits)
      else go rest (v.name :: names) (v.value :: values)

/-- Check the argument `a` at place `i` of `cmd`, the names `seen` taken by
the arguments before it: named, uniquely, of a known type, enum and bitfield
arguments with a table, bitfields on an unsigned base, multiset arguments with
a declaration among `drafts`. -/
def Arg.check (drafts : List MultisetDraft) (cmd : Command) (seen : List String) (a : Arg)
    (i : Nat) : Except TableError Unit := do
  if a.name.isEmpty then throw (.unnamedArg cmd.name i)
  if seen.contains a.name then throw (.duplicateArg cmd.name a.name)
  match a.type with
  | .unknown code => throw (.unknownArgType cmd.name a.name code)
  | .enum =>
    match a.enumTable with
    | none => throw (.enumWithoutTable cmd.name a.name)
    | some e => e.check 0
  | .bitfield =>
    match a.enumTable with
    | none => throw (.bitfieldWithoutTable cmd.name a.name)
    | some e =>
      if !a.base.isUnsigned then throw (.bitfieldBase cmd.name a.name a.base)
      e.check (a.base.size * 8)
  | .multiset =>
    let found := a.multiset.bind fun r => drafts.find? (·.key == r.key)
    if found.isNone then throw (.multisetWithoutDecl cmd.name a.name)
  | _ => pure ()

def Command.checkArgs (drafts : List MultisetDraft) (cmd : Command) : Except TableError Unit :=
  go cmd.args.zipIdx []
where
  go : List (Arg × Nat) → List String → Except TableError Unit
    | [], _ => pure ()
    | (a, i) :: rest, seen => do
      a.check drafts cmd seen i
      go rest (a.name :: seen)

namespace Table

/-- Register a multiset declaration: one of a name already registered is
accepted only if it is the same declaration; members must be present, have
distinct identities and valid arguments. -/
def addMultiset (drafts : List MultisetDraft) (t : Table) (ms : MultisetDraft) :
    Except TableError Table := do
  if let some prev := t.multisets.find? (·.name == ms.name) then
    if prev.key == ms.key then return t
    throw (.multisetTwice ms.name)
  if ms.name.isEmpty then throw .unnamedMultiset
  let members ← go ms.members []
  pure { t with multisets := t.multisets ++ [⟨ms.name, ms.key, members⟩] }
where
  go : List (Option Command) → List Command → Except TableError (List Command)
    | [], acc => pure acc.reverse
    | none :: _, _ => throw (.missingMember ms.name)
    | some m :: rest, acc => do
      if let some prev := acc.reverse.find? (·.identity == m.identity) then
        throw (.sharedMemberIdentity ms.name prev.name m.name m.identity)
      m.checkArgs drafts
      go rest (m :: acc)

/-- Add one command, check its arguments and register the multisets they
refer to. -/
def addCommand (drafts : List MultisetDraft) (t : Table) (cmd : Option Command) :
    Except TableError Table := do
  let some cmd := cmd | throw .missingCommand
  let t ← t.add cmd
  cmd.checkArgs drafts
  let refs := cmd.args.filterMap (·.multiset)
  let found := refs.filterMap fun r => drafts.find? (·.key == r.key)
  found.foldlM (addMultiset drafts) t

/-- Order commands by identity, features by id, classes by id and commands
within a class by number, multisets by name. -/
def sorted (t : Table) : Table :=
  { commands := t.commands.mergeSort fun a b => a.identity.value ≤ b.identity.value
    features := (t.features.mergeSort fun a b => a.id ≤ b.id).map fun f =>
      { f with classes := (f.classes.mergeSort fun a b => a.id ≤ b.id).map fun c =>
        { c with commands := c.commands.mergeSort fun a b => a.id ≤ b.id } }
    multisets := t.multisets.mergeSort fun a b => decide (a.name ≤ b.name)
    declarations := t.declarations }

/-- Validate commands, in order, then the multisets passed explicitly;
`drafts` holds every declaration that references may point to. -/
def build (drafts : List MultisetDraft) (cmds : List (Option Command))
    (extra : List (Option MultisetDraft)) : Except TableError Table := do
  let t ← cmds.foldlM (addCommand drafts) empty
  let t ← extra.foldlM (fun t ms => match ms with
    | none => throw .missingMultiset
    | some ms => addMultiset drafts t ms) t
  pure { t.sorted with declarations := drafts.filterMap (·.decl?) }

def findByName? (t : Table) (path : String) : Option Command := do
  let (f, k, n) ← match path.splitOn "." with
    | [f, n] => some (f, defaultClassName, n)
    | [f, k, n] => some (f, k, n)
    | _ => none
  let feature ← t.features.find? (·.name == f)
  let cls ← feature.cls? k
  cls.command? n

def findByIdentity? (t : Table) (id : Identity) : Option Command :=
  t.commands.find? (·.identity == id)

def feature? (t : Table) (name : String) : Option FeatureInfo :=
  t.features.find? (·.name == name)

def featureById? (t : Table) (id : UInt8) : Option FeatureInfo :=
  t.features.find? (·.id == id)

def multiset? (t : Table) (name : String) : Option MultisetDecl :=
  t.multisets.find? (·.name == name)

/-- Why no command answers a lookup. -/
inductive LookupError where
  | unknownPath (path : String)
  | unknownIdentity (id : Identity)
  deriving DecidableEq, Repr

def LookupError.message : LookupError → String
  | .unknownPath p => "command not found: " ++ p
  | .unknownIdentity id => "command not found: " ++ id.text

def lookup (t : Table) (path : String) : Except LookupError Command :=
  match t.findByName? path with
  | some c => pure c
  | none => throw (.unknownPath path)

def resolve (t : Table) (id : Identity) : Except LookupError Command :=
  match t.findByIdentity? id with
  | some c => pure c
  | none => throw (.unknownIdentity id)

end Table

end DroneProtocol
