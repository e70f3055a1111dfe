import DroneProtocol.Descriptor.TableError
import DroneProtocol.Yaml.Token
import DroneProtocol.Text.Quoted
import DroneProtocol.Bytes.Utf8

/-! # Why schema files cannot be loaded or compiled

A schema fails while it is read, loaded or compiled; a failure inside a named
file or command carries that name as a prefix. -/

namespace DroneProtocol.Schema

/-- The kinds of compile failure that callers can test for. -/
inductive SchemaFault where
  | unknownType | unknownEnum | unknownMultiset | unknownMember
  | mixedLayout | invalidOption | duplicateEnum | duplicateFeature
  deriving DecidableEq, Repr

/-- A reason why schema files cannot be loaded or compiled. -/
inductive SchemaError where
  | badYaml (e : Yaml.Error)
  | unmarshal (lines : List (List UInt8))
  | missingName
  | duplicateFeature (name : String)
  | duplicateEnum (key : String)
  | mixedLayout (feature : String)
  | invalidOption (command option value : String)
  | unknownType (command arg value : String)
  | unknownBase (command arg value : String)
  | unknownEnum (command arg ref : String)
  | unknownMultiset (command arg ref : String)
  | unknownMember (member multiset : String)
  | table (e : TableError)
  | inFile (file : String) (e : SchemaError)
  | unreadable (file reason : String)
  | noFiles (place : String)
  deriving Repr

namespace SchemaError

def unmarshalBytes (lines : List (List UInt8)) : List UInt8 :=
  Utf8.encode "parsing feature def: yaml: unmarshal errors:\n  " ++
    (lines.intersperse (Utf8.encode "\n  ")).flatten

/-- The message of a failure as text; the bytes of a value shown in a YAML
failure may have been cut inside a character, which then reads as a
replacement character (see `bytes`). -/
def message : SchemaError → String
  | badYaml e => "parsing feature def: " ++ e.message
  | unmarshal lines => String.ofList (Utf8.chars (unmarshalBytes lines))
  | missingName => "feature definition missing name"
  | duplicateFeature n => "schema: duplicate feature: " ++ n
  | duplicateEnum k => "schema: duplicate enum: " ++ k
  | mixedLayout f => "schema: feature has both classes and classless commands: " ++ f
  | invalidOption c o v => c ++ ": schema: invalid command option: " ++ o ++ " " ++ Quoted.ofString v
  | unknownType c a v => c ++ "." ++ a ++ ": schema: unknown argument type: " ++ Quoted.ofString v
  | unknownBase c a v =>
    c ++ "." ++ a ++ ": schema: unknown argument type: bitfield base " ++ Quoted.ofString v
  | unknownEnum c a r => c ++ "." ++ a ++ ": schema: unknown enum: " ++ Quoted.ofString r
  | unknownMultiset c a r => c ++ "." ++ a ++ ": schema: unknown multiset: " ++ Quoted.ofString r
  | unknownMember m ms => "schema: unknown multiset member: " ++ m ++ " in " ++ ms
  | table e => e.message
  | inFile f e => f ++ ": " ++ e.message
  | unreadable f reason => "reading " ++ f ++ ": " ++ reason
  | noFiles place => "no schema files in " ++ place

def bytes : SchemaError → List UInt8
  | unmarshal lines => unmarshalBytes lines
  | inFile f e => Utf8.encode (f ++ ": ") ++ e.bytes
  | e => Utf8.encode e.message

def fault? : SchemaError → Option SchemaFault
  | duplicateFeature _ => some .duplicateFeature
  | duplicateEnum _ => some .duplicateEnum
  | mixedLayout _ => some .mixedLayout
  | invalidOption .. => some .invalidOption
  | unknownType .. | unknownBase .. => some .unknownType
  | unknownEnum .. => some .unknownEnum
  | unknownMultiset .. => some .unknownMultiset
  | unknownMember .. => some .unknownMember
  | inFile _ e => e.fault?
  | _ => none

def table? : SchemaError → Option TableError
  | table e => some e
  | inFile _ e => e.table?
  | _ => none

end SchemaError

end DroneProtocol.Schema
