import DroneProtocol.Service.Generate

/-! # The generator's command line

`drone-gen -output DIR [-schema FILE]... [-package NAME]` compiles schema
files (the bundled schema by default) and writes the generated sources. The
run is planned by total functions; only reading and writing files is `IO`. -/

namespace DroneProtocol.CommandLine

/-- The options of a run. -/
structure Options where
  schema : List String := []
  output : String := ""
  package : String := "features"
  deriving Repr

def usage : String := "Usage: drone-gen -output <dir> [-schema <file>]... [-package <name>]"

/-- The name of a flag argument with its dashes removed, and its value if it
is written after `=`. -/
def flagName (arg : String) : Option (String × Option String) :=
  let body := if arg.startsWith "--" then (arg.drop 2).toString
    else if arg.startsWith "-" then (arg.drop 1).toString else ""
  if body.isEmpty then none
  else match body.splitOn "=" with
    | [name] => some (name, none)
    | name :: rest => some (name, some ("=".intercalate rest))
    | [] => none

/-- Set the option a flag names, or the message for a flag that is not
defined. -/
def Options.set (o : Options) (name value : String) : Except String Options :=
  match name with
  | "schema" => pure { o with schema := o.schema ++ [value] }
  | "output" => pure { o with output := value }
  | "package" => pure { o with package := value }
  | _ => throw ("flag provided but not defined: -" ++ name)

/-- Read the flags of a command line into options, or the message that
stops the run; the first argument that is not a flag ends the flags. -/
def parse : List String → Options → Except String Options
  | [], o => pure o
  | arg :: rest, o =>
    match flagName arg with
    | none => pure o
    | some (name, some v) => do
      let o' ← o.set name v
      parse rest o'
    | some (name, none) =>
      match rest with
      | v :: rest' => do
        let o' ← o.set name v
        parse rest' o'
      | [] => do
        let _ ← o.set name ""
        throw ("flag needs an argument: -" ++ name)

def baseName (path : String) : String := ((path.splitOn "/").getLast?).getD path

/-- The features of the schema files read, each as the file of its base
name, or of the bundled schema when none is named. -/
def definitions (files : List (String × Except String String)) :
    Except Schema.SchemaError (List Schema.FeatureDef) :=
  if files.isEmpty then Schema.bundledFeatures
  else Schema.loadFiles (files.map fun (p, c) => ⟨baseName p, c⟩) "the schema files" id

/-- Compile and generate: the generated files, or the message of the failure
that stops the run before anything is written. -/
def plan (o : Options) (files : List (String × Except String String)) :
    Except String (List Codegen.SourceFile) :=
  match definitions files with
  | .error e => throw ("loading schema: " ++ e.message)
  | .ok defs =>
    match Schema.compile defs with
    | .error e => throw ("compiling schema: " ++ e.message)
    | .ok s =>
      match Codegen.generate s o.package with
      | .error e => throw e.message
      | .ok generated => pure generated

def decodeText (bytes : ByteArray) : Except String String :=
  match String.fromUTF8? bytes with
  | some text => .ok text
  | none => .error "invalid UTF-8"

/-- Read the schema files, generate, and write the output directory. -/
def run (o : Options) : IO UInt32 := do
  let mut files : List (String × Except String String) := []
  for path in o.schema do
    try
      let bytes ← IO.FS.readBinFile path
      files := files ++ [(path, decodeText bytes)]
    catch e =>
      files := files ++ [(path, .error (toString e))]
  match plan o files with
  | .error msg =>
    IO.eprintln ("error: " ++ msg)
    return 1
  | .ok generated =>
    IO.FS.createDirAll o.output
    for f in generated do
      let out := o.output ++ "/" ++ f.name
      match Source.formatSource out f.code with
      | .ok code =>
        IO.FS.writeFile out code
        IO.println ("  generated " ++ out)
      | .error msg =>
        IO.FS.writeBinFile (out ++ ".broken") (ByteArray.mk f.code.toArray)
        IO.eprintln ("error: writing " ++ f.name ++ ": goimports " ++ f.name ++ ": " ++ msg)
        return 1
    return 0

end DroneProtocol.CommandLine

def main (args : List String) : IO UInt32 := do
  match DroneProtocol.CommandLine.parse args {} with
  | .error msg =>
    IO.eprintln msg
    IO.eprintln DroneProtocol.CommandLine.usage
    return 2
  | .ok o =>
    if o.output.isEmpty then
      IO.eprintln DroneProtocol.CommandLine.usage
      return 1
    DroneProtocol.CommandLine.run o
