import DroneProtocol.Service.Input
import DroneProtocol.Codegen.Template
import DroneProtocol.Source.Layout

/-! # Generation requests

`generate` compiles a schema and shows the generated files, as generated or in
their standard layout; `cli` runs the generator's command line over a schema
directory into an output directory. -/

namespace DroneProtocol.Service

open Schema

namespace Generate

/-- The report of a generation failure. -/
def failure (e : Codegen.GenError) (stage : List (String × Datum)) : Datum :=
  report e.message e.kind?.toList stage

/-- The package a request names, `features` by default. -/
def package (req : Datum) : String :=
  ((req.field? "package").bind Datum.str?).getD "features"

/-- The message of a file that cannot be laid out, given the path it has in
messages. -/
def layoutFailure (name path : String) (code : List UInt8) : Option String :=
  match Source.formatSource path code with
  | .ok _ => none
  | .error msg => some ("goimports " ++ name ++ ": " ++ msg)

def fileView (format : Bool) (f : Codegen.SourceFile) : Datum :=
  if !format then .obj [("name", .str f.name), ("code", Datum.text f.code)]
  else match Source.formatSource f.name f.code with
    | .ok code => .obj [("name", .str f.name), ("code", .str code)]
    | .error msg => .obj [("name", .str f.name),
        ("error", report ("goimports " ++ f.name ++ ": " ++ msg) [] [])]

/-- Answer a generation request. -/
def run (c : Compiled) (req : Datum) : Outcome Datum := do
  let s ← Input.schema req (.ok c) "load" "compile"
  let files ← (Codegen.generate s (package req)).mapError (failure · [("stage", .str "generate")])
  pure (.obj [("files", .arr (files.map (fileView (req.flag "format"))))])

/-- A file written to the output directory: its name and bytes. -/
structure Written where
  name : String
  bytes : List UInt8

/-- The result of a command line run: what it said, what it wrote, and its
failure if any. -/
structure RunResult where
  said : String := ""
  written : List Written := []
  failure : Option Datum := none

def cliDefs (req : Datum) : Except SchemaError (List FeatureDef) :=
  if req.flag "missing_dir" then throw (.noFiles "missing")
  else if req.has "files" || req.has "dirs" then
    let files := (req.members "files").map fun (k, v) => (⟨k, .ok (v.str?.getD "")⟩ : SchemaFile)
    let dirs := (req.list "dirs").filterMap Datum.str? |>.map fun d =>
      (⟨d, .error ("read schema/" ++ d ++ ": is a directory")⟩ : SchemaFile)
    loadFiles (files ++ dirs) "schema" ("schema/" ++ ·)
  else bundledFeatures

def schemaFailure (doing : String) (e : SchemaError) : Datum :=
  let base := Failure.schema e ""
  let kinds := (base.field? "sentinels").map (·.items.filterMap Datum.str?) |>.getD []
  (report (doing ++ e.message) kinds []).set "message" (Datum.text (Utf8.encode doing ++ e.bytes))

/-- Write generated files in their standard layout, until one cannot be laid
out. -/
def writeAll (files : List Codegen.SourceFile) (acc : RunResult) : RunResult :=
  match files with
  | [] => acc
  | f :: rest =>
    match Source.formatSource ("out/" ++ f.name) f.code with
    | .ok code =>
      writeAll rest { acc with said := acc.said ++ "  generated out/" ++ f.name ++ "\n",
                               written := acc.written ++ [⟨f.name, Utf8.encode code⟩] }
    | .error msg =>
      { acc with written := acc.written ++ [⟨f.name ++ ".broken", f.code⟩],
                 failure := some (report ("writing " ++ f.name ++ ": goimports " ++ f.name ++ ": " ++ msg)
                   [] []) }

def runCli (req : Datum) : RunResult :=
  match cliDefs req with
  | .error e => { failure := some (schemaFailure "loading schema: " e) }
  | .ok defs =>
    match compile defs with
    | .error e => { failure := some (schemaFailure "compiling schema: " e) }
    | .ok s =>
      match Codegen.generate s (package req) with
      | .error e => { failure := some (failure e []) }
      | .ok files =>
        if req.flag "out_is_file" then
          { failure := some (report "creating output dir: mkdir out: not a directory" [] []) }
        else writeAll files {}

/-- Answer a command line request. -/
def cli (req : Datum) : Datum :=
  let r := runCli req
  let files := r.written.mergeSort fun a b => decide (a.name ≤ b.name)
  .obj [("stdout", .str r.said), ("error", r.failure.getD .null),
    ("files", .arr (files.map fun w =>
      if req.flag "contents" || w.name.endsWith ".broken" then
        .obj [("name", .str w.name), ("code", Datum.text w.bytes)]
      else .obj [("name", .str w.name), ("size", .nat w.bytes.length)]))]

end Generate

end DroneProtocol.Service
