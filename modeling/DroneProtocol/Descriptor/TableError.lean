import DroneProtocol.Descriptor.Command

/-! # Why descriptors cannot form a table

Each way a set of descriptors can fail validation is a constructor. Every
failure names its subject (a command, enum table or multiset), belongs to one
of seven kinds, and may carry a detail sentence; its message is
`schema: <subject>: <kind>` followed by `: <detail>` when there is one.
-/

namespace DroneProtocol

/-- The seven kinds of table failure. -/
inductive TableFault where
  | duplicateIdentity | duplicateName | malformedName | inconsistentId
  | invalidArg | invalidEnum | invalidMultiset
  deriving DecidableEq, Repr

def TableFault.text : TableFault → String
  | .duplicateIdentity => "duplicate command identity"
  | .duplicateName => "duplicate name"
  | .malformedName => "malformed name"
  | .inconsistentId => "inconsistent id"
  | .invalidArg => "invalid argument descriptor"
  | .invalidEnum => "invalid enum table"
  | .invalidMultiset => "invalid multiset descriptor"

/-- A reason why descriptors cannot form a table. -/
inductive TableError where
  | missingCommand
  | duplicateIdentity (command : String) (id : Identity) (previous : String)
  | emptyComponent (command : String)
  | classlessWithClass (command : String) (cls : UInt8)
  | badPath (command : String)
  | featureIdTaken (command : String) (id : UInt8) (owner : String)
  | featureIdMismatch (command feature : String) (has uses : UInt8)
  | classIdTaken (command : String) (id : UInt8) (feature cls : String)
  | classIdMismatch (command feature cls : String) (has uses : UInt8)
  | duplicateCommand (command : String)
  | unnamedArg (command : String) (index : Nat)
  | duplicateArg (command arg : String)
  | unknownArgType (command arg : String) (code : UInt8)
  | enumWithoutTable (command arg : String)
  | bitfieldWithoutTable (command arg : String)
  | bitfieldBase (command arg : String) (base : ArgType)
  | multisetWithoutDecl (command arg : String)
  | unnamedValue (enum : String) (value : Int32)
  | duplicateValueName (enum name : String)
  | duplicateValue (enum : String) (value : Int32)
  | flagOutOfRange (enum flag : String) (bits : Nat)
  | missingMultiset
  | multisetTwice (name : String)
  | unnamedMultiset
  | missingMember (multiset : String)
  | sharedMemberIdentity (multiset first second : String) (id : Identity)
  deriving DecidableEq, Repr

namespace TableError

/-- The command, enum table or multiset a failure is about. -/
def subject : TableError → String
  | missingCommand | missingMultiset => "<nil>"
  | unnamedMultiset => "<multiset>"
  | duplicateIdentity c .. | emptyComponent c | classlessWithClass c _ | badPath c
  | featureIdTaken c .. | featureIdMismatch c .. | classIdTaken c .. | classIdMismatch c ..
  | duplicateCommand c | unnamedArg c _ | duplicateArg c _ | unknownArgType c .. 
  | enumWithoutTable c _ | bitfieldWithoutTable c _ | bitfieldBase c .. 
  | multisetWithoutDecl c _ => c
  | unnamedValue e _ | duplicateValueName e _ | duplicateValue e _ | flagOutOfRange e .. => e
  | multisetTwice m | missingMember m | sharedMemberIdentity m .. => m

def fault : TableError → TableFault
  | duplicateIdentity .. | sharedMemberIdentity .. => .duplicateIdentity
  | duplicateCommand _ | duplicateArg .. | multisetTwice _ => .duplicateName
  | emptyComponent _ | badPath _ => .malformedName
  | classlessWithClass .. | featureIdTaken .. | featureIdMismatch .. | classIdTaken ..
  | classIdMismatch .. => .inconsistentId
  | missingCommand | unnamedArg .. | unknownArgType .. | enumWithoutTable .. 
  | bitfieldWithoutTable .. | bitfieldBase .. | multisetWithoutDecl .. => .invalidArg
  | unnamedValue .. | duplicateValueName .. | duplicateValue .. | flagOutOfRange .. => .invalidEnum
  | missingMultiset | unnamedMultiset | missingMember _ => .invalidMultiset

/-- The detail sentence, empty when there is none. -/
def detail : TableError → String
  | missingCommand => "nil command"
  | duplicateIdentity _ id prev => s!"{id.text} already used by {prev}"
  | emptyComponent _ => "empty path component"
  | classlessWithClass _ k => s!"classless command with class id {k.toNat}"
  | badPath _ => "want feature.class.command or feature.command"
  | featureIdTaken _ id owner => s!"feature id {id.toNat} already used by {owner}"
  | featureIdMismatch _ f has uses => s!"feature {f} has id {has.toNat}, command uses {uses.toNat}"
  | classIdTaken _ id f k => s!"class id {id.toNat} already used by {f}.{k}"
  | classIdMismatch _ f k has uses =>
    s!"class {f}.{k} has id {has.toNat}, command uses {uses.toNat}"
  | duplicateCommand _ => ""
  | unnamedArg _ i => s!"argument {i} has no name"
  | duplicateArg _ a => s!"argument {a}"
  | unknownArgType _ a code => s!"argument {a} has unknown type {code.toNat}"
  | enumWithoutTable _ a => s!"enum argument {a} has no table"
  | bitfieldWithoutTable _ a => s!"bitfield argument {a} has no table"
  | bitfieldBase _ a base => s!"bitfield argument {a} has base {base.name}"
  | multisetWithoutDecl _ a => s!"multiset argument {a} has no descriptor"
  | unnamedValue _ v => s!"value {v.toInt} has no name"
  | duplicateValueName _ n => s!"duplicate name {n}"
  | duplicateValue _ v => s!"duplicate value {v.toInt}"
  | flagOutOfRange _ n bits => s!"flag {n} is not a bit index below {bits}"
  | missingMultiset => "nil multiset"
  | multisetTwice _ => "multiset declared twice"
  | unnamedMultiset => "missing name"
  | missingMember _ => "nil member"
  | sharedMemberIdentity _ a b id => s!"members {a} and {b} share {id.text}"

/-- The message of a failure. -/
def message (e : TableError) : String :=
  if e.detail.isEmpty then s!"schema: {e.subject}: {e.fault.text}"
  else s!"schema: {e.subject}: {e.fault.text}: {e.detail}"

end TableError

end DroneProtocol
