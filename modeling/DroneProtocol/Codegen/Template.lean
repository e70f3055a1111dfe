import DroneProtocol.Codegen.Plan
import DroneProtocol.Text.Quoted
import DroneProtocol.Text.Unicode

/-! # Source text of generated files

A feature's file declares its id, its enums, command identities, multisets,
each command's descriptor and helpers, and the lists of its commands and
multisets; the registry concatenates the lists. Text is built as bytes and
need not be valid UTF-8. -/

namespace DroneProtocol.Codegen

/-- Bytes of text. -/
def bytes (s : String) : List UInt8 := Utf8.encode s

def comment (text : String) : String :=
  let text := Unicode.trimSpace text
  if text.isEmpty then ""
  else String.join ((text.splitOn "\n").map fun l => "// " ++ Unicode.trimSpace l ++ "\n")

def params (args : List ArgPlan) : List UInt8 :=
  (bytes ", ").intercalate (args.map fun a => a.param ++ bytes (" " ++ a.paramType))

def forwarded (args : List ArgPlan) : List UInt8 :=
  args.flatMap fun a => bytes ", " ++ a.param

def enumText (e : EnumPlan) : String :=
  "\n// " ++ e.ident ++ " is the " ++ (if e.bitfield then "bitfield" else "enum") ++ " table " ++
  e.name ++ ".\n" ++ comment e.description ++ "var " ++ e.ident ++
  " = &desc.EnumTable\x7bName: " ++ Quoted.ofString e.name ++ ", Values: []desc.EnumValue\x7b" ++
  String.join (e.values.map fun v =>
    "\n\t\x7bName: " ++ Quoted.ofString v.name ++ ", Value: " ++ toString v.value ++ "\x7d,") ++
  "\n\x7d\x7d\n\n// " ++ e.name ++ " " ++ (if e.bitfield then "bit indexes" else "values") ++
  ".\nconst (" ++
  String.join (e.values.map fun v => "\n\t" ++ v.const ++ " int32 = " ++ toString v.value) ++
  "\n)\n"

def identitiesText (f : FeaturePlan) : String :=
  if f.commands.isEmpty then ""
  else "\n// " ++ f.name ++ " command identities.\nconst (" ++
    String.join (f.commands.map fun c => "\n\tID" ++ c.ident ++ " desc.ID = " ++ c.identity) ++
    "\n)\n"

def multisetText (m : MultisetPlan) : String :=
  "\n// " ++ m.ident ++ " is the " ++ m.name ++ " multiset.\n" ++ comment m.description ++
  "var " ++ m.ident ++ " = &desc.Multiset\x7bName: " ++ Quoted.ofString m.name ++
  ", Members: []*desc.Command\x7b" ++ String.join (m.members.map fun v => "\n\t" ++ v ++ ",") ++
  "\n\x7d\x7d\n"

def argText (a : ArgPlan) : String :=
  "\n\t\t\x7bName: " ++ Quoted.ofString a.name ++ ", Type: " ++ a.type ++
  (if a.enum.isEmpty then "" else ", Enum: " ++ a.enum) ++
  (if a.base.isEmpty then "" else ", BitfieldBase: " ++ a.base) ++
  (if a.multiset.isEmpty then "" else ", Multiset: " ++ a.multiset) ++ "\x7d,"

def descriptorText (c : CommandPlan) : String :=
  "\n// " ++ c.ident ++ " is the descriptor of " ++ c.name ++ ".\n" ++
  (if c.description.isEmpty then "" else "//\n" ++ comment c.description) ++
  (if c.deprecated then "//\n// Deprecated: " ++ c.name ++ " is kept for older peers.\n" else "") ++
  "var " ++ c.ident ++ " = &desc.Command\x7b\n\tName: " ++ Quoted.ofString c.name ++
  ",\n\tFeature: " ++ toString c.feature ++ ",\n\tClass: " ++ toString c.cls ++
  ",\n\tID: " ++ toString c.id ++ ",\n\tListType: " ++ c.list ++ ",\n\tBufferType: " ++ c.buffer ++
  ",\n\tTimeoutPolicy: " ++ c.timeout ++ "," ++
  (if c.args.isEmpty then ""
   else "\n\tArgs: []desc.Arg\x7b" ++ String.join (c.args.map argText) ++ "\n\t\x7d,") ++
  "\n\x7d\n"

/-- The helpers that bind a handler to a command and, with arguments, decode
them. -/
def bindingText (c : CommandPlan) : String :=
  let v := c.ident
  if c.args.isEmpty then
    "\n\n// On" ++ v ++ " binds cb to " ++ c.name ++ ".\nfunc On" ++ v ++
    "(cb func() error) dispatch.Entry \x7b\n\treturn dispatch.OnCommand(func(*wire.Message) error \x7b return cb() \x7d, " ++
    v ++ ")\n\x7d"
  else
    "\n\n// " ++ v ++ "Args holds the decoded arguments of " ++ c.name ++ ".\ntype " ++ v ++
    "Args struct \x7b" ++
    String.join (c.args.map fun a => "\n\t" ++ a.field ++ " " ++ a.fieldType) ++
    "\n\x7d\n\n// Decode" ++ v ++ " extracts the arguments of a decoded " ++ c.name ++
    " message.\nfunc Decode" ++ v ++ "(msg *wire.Message) (" ++ v ++ "Args, error) \x7b\n\tvar a " ++
    v ++ "Args\n\tif err := checkMessage(msg, " ++ v ++ "); err != nil \x7b\n\t\treturn a, err\n\t\x7d" ++
    String.join (c.args.map fun a =>
      "\n\ta." ++ a.field ++ " = msg.Args[" ++ toString a.index ++ "].(" ++ a.fieldType ++ ")") ++
    "\n\treturn a, nil\n\x7d\n\n// On" ++ v ++ " binds cb to " ++ c.name ++ ".\nfunc On" ++ v ++
    "(cb func(" ++ v ++ "Args) error) dispatch.Entry \x7b\n\treturn dispatch.OnCommand(func(msg *wire.Message) error \x7b\n\t\ta, err := Decode" ++
    v ++ "(msg)\n\t\tif err != nil \x7b\n\t\t\treturn err\n\t\t\x7d\n\t\treturn cb(a)\n\t\x7d, " ++ v ++
    ")\n\x7d"

def commandText (c : CommandPlan) : List UInt8 :=
  let v := c.ident
  bytes (descriptorText c) ++
  bytes ("\n// Encode" ++ v ++ " encodes " ++ c.name ++ " with the default codec.\nfunc Encode" ++ v ++
    "(") ++ params c.args ++ bytes (") (wire.Frame, error) \x7b\n\treturn wire.Encode(" ++ v) ++
  forwarded c.args ++
  bytes (")\n\x7d\n\n// Send" ++ v ++ " sends " ++ c.name ++ " through itf.\nfunc Send" ++ v ++
    "(itf *cmditf.Interface, status cmditf.StatusFunc") ++
  (if c.args.isEmpty then [] else bytes ", " ++ params c.args) ++
  bytes (") error \x7b\n\treturn itf.Send(" ++ v ++ ", status") ++ forwarded c.args ++
  bytes (")\n\x7d" ++ bindingText c ++ "\n")

def featureImports : List String :=
  ["github.com/arsdk-protocol/arsdk-go/pkg/cmditf", "github.com/arsdk-protocol/arsdk-go/pkg/desc",
   "github.com/arsdk-protocol/arsdk-go/pkg/dispatch", "github.com/arsdk-protocol/arsdk-go/pkg/wire"]

def header (pkg : String) : String :=
  "// Code generated by arsdk-gen. DO NOT EDIT.\n\npackage " ++ pkg ++ "\n\n"

/-- The source of a feature's file. -/
def featureSource (f : FeaturePlan) : List UInt8 :=
  List.flatten
    ([bytes (header f.package ++ "import (" ++
        String.join (featureImports.map fun i => "\n\t\"" ++ i ++ "\"") ++ "\n)\n\n// " ++
        f.ident ++ "ID is the feature id of " ++ f.name ++ ".\n" ++ comment f.description ++
        "const " ++ f.ident ++ "ID uint8 = " ++ toString f.id ++ "\n" ++
        String.join (f.enums.map enumText) ++ identitiesText f ++
        String.join (f.multisets.map multisetText))] ++
     f.commands.map commandText ++
     [bytes "\n// ", f.commandList, bytes (" lists the " ++ f.name ++ " descriptors in schema order.\nvar "),
      f.commandList, bytes (" = []*desc.Command\x7b" ++
        String.join (f.commands.map fun c => "\n\t" ++ c.ident ++ ",") ++ "\n\x7d")] ++
     (if f.multisets.isEmpty then []
      else [bytes "\n\n// ", f.multisetList, bytes (" lists the multisets declared by " ++ f.name ++
          ".\nvar "), f.multisetList, bytes (" = []*desc.Multiset\x7b" ++
          String.join (f.multisets.map fun m => "\n\t" ++ m.ident ++ ",") ++ "\n\x7d")]) ++
     [bytes "\n"])

/-- The source of the registry file, given the command lists of all features
and the multiset lists of those that declare multisets. -/
def registrySource (pkg : String) (commandLists multisetLists : List (List UInt8)) : List UInt8 :=
  bytes (header pkg ++ "import (\n\t\"slices\"\n\n\t\"github.com/arsdk-protocol/arsdk-go/pkg/desc\"\n)\n\n" ++
    "// Commands returns every generated command descriptor, feature by feature in\n// schema order.\n" ++
    "func Commands() []*desc.Command \x7b\n\treturn slices.Concat(") ++
  (bytes ", ").intercalate commandLists ++
  bytes (")\n\x7d\n\n// Multisets returns every generated multiset descriptor.\n" ++
    "func Multisets() []*desc.Multiset \x7b") ++
  (if multisetLists.isEmpty then bytes "\n\treturn nil"
   else bytes "\n\treturn slices.Concat(" ++ (bytes ", ").intercalate multisetLists ++ bytes ")") ++
  bytes ("\n\x7d\n\n// NewTable builds the descriptor table of the generated features.\n" ++
    "func NewTable() (*desc.Table, error) \x7b\n\treturn desc.NewTable(Commands(), Multisets()...)\n\x7d\n")

/-- A generated file: its name and source. -/
structure SourceFile where
  name : String
  code : List UInt8
  deriving Repr, Inhabited

/-- Generate the files of a compiled schema in a package: one per feature,
named after it, then the registry. -/
def generate (s : Schema.Compiled) (pkg : String) : Except GenError (List SourceFile) := do
  let n ← nameAll s
  let plans ← s.features.mapM fun f => planFeature s n f pkg
  let files := plans.zip s.features |>.map fun (p, f) =>
    { name := Naming.fileName f.source.name ++ "_gen.go", code := featureSource p : SourceFile }
  let registry := registrySource pkg (plans.map (·.commandList))
    ((plans.filter (!·.multisets.isEmpty)).map (·.multisetList))
  pure (files ++ [{ name := "registry_gen.go", code := registry }])

end DroneProtocol.Codegen
