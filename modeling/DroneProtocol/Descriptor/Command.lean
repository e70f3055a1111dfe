import DroneProtocol.Descriptor.Basic
import DroneProtocol.Descriptor.Enum

/-! # Command and multiset descriptors

A command is named by its path (`feature.class.command` or `feature.command`)
and carries its identity, arguments and delivery hints. A multiset is a bundle
of optional member commands, referred to by name and by a key that tells two
declarations of one name apart. -/

namespace DroneProtocol

def defaultClassName : String := "default"

/-- A reference to a multiset declaration. -/
structure MultisetRef where
  name : String
  key : Nat
  deriving DecidableEq, Repr, Inhabited

/-- An argument of a command. -/
structure Arg where
  name : String
  type : ArgType
  /-- The table of an enum or bitfield argument. -/
  enumTable : Option EnumTable := none
  /-- The unsigned type that carries a bitfield. -/
  base : ArgType := .i8
  /-- The declaration of a multiset argument. -/
  multiset : Option MultisetRef := none
  deriving DecidableEq, Repr, Inhabited

def Arg.wireType (a : Arg) : ArgType :=
  if a.type = .bitfield then a.base else a.type

/-- A command descriptor. -/
structure Command where
  name : String
  feature : UInt8
  cls : UInt8
  id : UInt16
  args : List Arg := []
  list : ListKind := .none
  delivery : Delivery := .nonAck
  timeout : TimeoutPolicy := .pop
  deriving DecidableEq, Repr, Inhabited

namespace Command

/-- The identity of the command. -/
def identity (c : Command) : Identity := ⟨c.feature, c.cls, c.id⟩

/-- Feature, class and short name read off the full name: two components get
the default class, any other count gives empty feature and class. -/
def path (c : Command) : String × String × String :=
  match c.name.splitOn "." with
  | [f, n] => (f, defaultClassName, n)
  | [f, k, n] => (f, k, n)
  | _ => ("", "", c.name)

def shortName (c : Command) : String := c.path.2.2

def arg? (c : Command) (n : String) : Option (Nat × Arg) :=
  (c.args.zipIdx.find? (·.1.name == n)).map fun (a, i) => (i, a)

end Command

/-- A multiset declaration with its member commands in slot order. -/
structure MultisetDecl where
  name : String
  key : Nat
  members : List Command
  deriving DecidableEq, Repr, Inhabited

namespace MultisetDecl

def ref (m : MultisetDecl) : MultisetRef := ⟨m.name, m.key⟩

def member? (m : MultisetDecl) (id : Identity) : Option (Nat × Command) :=
  (m.members.zipIdx.find? (·.1.identity == id)).map fun (c, i) => (i, c)

end MultisetDecl

abbrev Catalog := List MultisetDecl

def Catalog.resolve? (cat : Catalog) (r : MultisetRef) : Option MultisetDecl :=
  cat.find? (·.key == r.key)

end DroneProtocol
