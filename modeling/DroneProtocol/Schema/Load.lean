import DroneProtocol.Schema.Compile

/-! # Loading schema files

A schema directory holds one feature per `*.yaml` file. Loading reads the
matching files in name order, parses each, records the file it came from,
and orders the features by id, keeping name order among equal ids. A file
that cannot be read or parsed stops loading, with its name as a prefix.
-/

namespace DroneProtocol.Schema

/-- An entry of a schema directory: its name and its text, or the reason it
cannot be read (a directory, for instance). -/
structure SchemaFile where
  name : String
  content : Except String String

def isSchemaName (name : String) : Bool :=
  name.endsWith ".yaml" && !name.contains '/'

/-- Load the features of a schema directory; `place` names the directory in
the failure when no file matches, and `path` turns an entry name into the
name features record as their source. -/
def loadFiles (entries : List SchemaFile) (place : String) (path : String → String) :
    Except SchemaError (List FeatureDef) := do
  let files := (entries.filter fun e => isSchemaName e.name).mergeSort
    fun a b => decide (a.name ≤ b.name)
  if files.isEmpty then throw (.noFiles place)
  let mut defs : Array FeatureDef := #[]
  for f in files do
    let text ← match f.content with
      | .ok t => pure t
      | .error reason => throw (.unreadable (path f.name) reason)
    let d ← match parseFeatureDef text with
      | .ok d => pure d
      | .error e => throw (.inFile (path f.name) e)
    defs := defs.push { d with source := path f.name }
  pure (defs.toList.mergeSort fun a b => a.id ≤ b.id)

def parseAll (texts : List String) : Except SchemaError (List FeatureDef) :=
  texts.mapM parseFeatureDef

end DroneProtocol.Schema
