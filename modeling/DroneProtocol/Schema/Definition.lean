/-! # Feature definitions as written

A schema file describes one feature: its enums, and its commands either
grouped in classes or listed directly, and the multisets it declares. These
records hold the file's content before any reference is resolved; an absent
field is empty, zero or false.
-/

namespace DroneProtocol.Schema

/-- One named value of an enum; for a bitfield the value is a bit index. -/
structure ValueDef where
  name : String := ""
  value : Int32 := 0
  description : String := ""
  deriving Repr, Inhabited

/-- An enum or bitfield value table. -/
structure EnumDef where
  name : String := ""
  description : String := ""
  values : List ValueDef := []
  deriving Repr, Inhabited

/-- A command argument: its type by name, and the enum, bitfield carrier or
multiset it refers to. -/
structure ArgDef where
  name : String := ""
  type : String := ""
  enum : String := ""
  base : String := ""
  multiset : String := ""
  description : String := ""
  deriving Repr, Inhabited

/-- A command; buffer, timeout and list options are named, empty meaning the
default. -/
structure CommandDef where
  name : String := ""
  id : UInt16 := 0
  description : String := ""
  buffer : String := ""
  timeout : String := ""
  list : String := ""
  deprecated : Bool := false
  args : List ArgDef := []
  deriving Repr, Inhabited

/-- A class grouping commands. -/
structure ClassDef where
  name : String := ""
  id : UInt8 := 0
  description : String := ""
  commands : List CommandDef := []
  deriving Repr, Inhabited

/-- A multiset and its members, named by full command name. -/
structure MultisetDef where
  name : String := ""
  description : String := ""
  members : List String := []
  deriving Repr, Inhabited

/-- A feature as written in one schema file; `source` is the file it came
from, empty when it was given as text. -/
structure FeatureDef where
  name : String := ""
  id : UInt8 := 0
  description : String := ""
  enums : List EnumDef := []
  classes : List ClassDef := []
  commands : List CommandDef := []
  multisets : List MultisetDef := []
  source : String := ""
  deriving Repr, Inhabited

end DroneProtocol.Schema
