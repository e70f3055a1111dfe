import DroneProtocol.Schema.Definition
import DroneProtocol.Schema.Error
import DroneProtocol.Yaml.Decode

/-! # Reading a feature definition from YAML

The first document is read as a feature record, fields matched by lower-case
name. Every value that does not fit its width is listed, and a definition
must name its feature. -/

namespace DroneProtocol.Schema

open Yaml

def readId (bits : Nat) (into : String) : Node → Reading (Option Nat) := fun n => do
  match ← readInt 0 (Nat.pow 2 bits - 1) into n with
  | some v => pure (some v.toNat)
  | none => pure none

def readValueDef (fuel : Nat) : Node → Reading (Option ValueDef) :=
  readRecord ⟨"schema.RawEnumValue", fun
    | "name" => some (setWith readText fun r v => { r with name := v })
    | "value" => some (setWith (readInt (-2147483648) 2147483647 "int32")
        fun r v => { r with value := Int32.ofInt v })
    | "description" => some (setWith readText fun r v => { r with description := v })
    | _ => none⟩ {} fuel

def readEnumDef (fuel : Nat) : Node → Reading (Option EnumDef) :=
  readRecord ⟨"schema.RawEnumDef", fun
    | "name" => some (setWith readText fun r v => { r with name := v })
    | "description" => some (setWith readText fun r v => { r with description := v })
    | "values" => some (setWith (readList "[]schema.RawEnumValue" (readValueDef fuel))
        fun r v => { r with values := v })
    | _ => none⟩ {} fuel

def readArgDef (fuel : Nat) : Node → Reading (Option ArgDef) :=
  readRecord ⟨"schema.RawArgDef", fun
    | "name" => some (setWith readText fun r v => { r with name := v })
    | "type" => some (setWith readText fun r v => { r with type := v })
    | "enum" => some (setWith readText fun r v => { r with enum := v })
    | "base" => some (setWith readText fun r v => { r with base := v })
    | "multiset" => some (setWith readText fun r v => { r with multiset := v })
    | "description" => some (setWith readText fun r v => { r with description := v })
    | _ => none⟩ {} fuel

def readCommandDef (fuel : Nat) : Node → Reading (Option CommandDef) :=
  readRecord ⟨"schema.RawCommandDef", fun
    | "name" => some (setWith readText fun r v => { r with name := v })
    | "id" => some (setWith (readId 16 "uint16") fun r v => { r with id := v.toUInt16 })
    | "description" => some (setWith readText fun r v => { r with description := v })
    | "buffer" => some (setWith readText fun r v => { r with buffer := v })
    | "timeout" => some (setWith readText fun r v => { r with timeout := v })
    | "list" => some (setWith readText fun r v => { r with list := v })
    | "deprecated" => some (setWith readBool fun r v => { r with deprecated := v })
    | "args" => some (setWith (readList "[]schema.RawArgDef" (readArgDef fuel))
        fun r v => { r with args := v })
    | _ => none⟩ {} fuel

def readClassDef (fuel : Nat) : Node → Reading (Option ClassDef) :=
  readRecord ⟨"schema.RawClassDef", fun
    | "name" => some (setWith readText fun r v => { r with name := v })
    | "id" => some (setWith (readId 8 "uint8") fun r v => { r with id := v.toUInt8 })
    | "description" => some (setWith readText fun r v => { r with description := v })
    | "commands" => some (setWith (readList "[]schema.RawCommandDef" (readCommandDef fuel))
        fun r v => { r with commands := v })
    | _ => none⟩ {} fuel

def readMultisetDef (fuel : Nat) : Node → Reading (Option MultisetDef) :=
  readRecord ⟨"schema.RawMultisetDef", fun
    | "name" => some (setWith readText fun r v => { r with name := v })
    | "description" => some (setWith readText fun r v => { r with description := v })
    | "members" => some (setWith (readList "[]string" readText) fun r v => { r with members := v })
    | _ => none⟩ {} fuel

def readFeatureDef (fuel : Nat) : Node → Reading (Option FeatureDef) :=
  readRecord ⟨"schema.RawFeatureDef", fun
    | "name" => some (setWith readText fun r v => { r with name := v })
    | "id" => some (setWith (readId 8 "uint8") fun r v => { r with id := v.toUInt8 })
    | "description" => some (setWith readText fun r v => { r with description := v })
    | "enums" => some (setWith (readList "[]schema.RawEnumDef" (readEnumDef fuel))
        fun r v => { r with enums := v })
    | "classes" => some (setWith (readList "[]schema.RawClassDef" (readClassDef fuel))
        fun r v => { r with classes := v })
    | "commands" => some (setWith (readList "[]schema.RawCommandDef" (readCommandDef fuel))
        fun r v => { r with commands := v })
    | "multisets" => some (setWith (readList "[]schema.RawMultisetDef" (readMultisetDef fuel))
        fun r v => { r with multisets := v })
    | _ => none⟩ {} fuel

/-- Parse a feature definition from YAML text. A merge or a key reads at
most as many nodes as the text has characters, which bounds the fuel. -/
def parseFeatureDef (text : String) : Except SchemaError FeatureDef := do
  let doc ← match readDocument text with
    | .ok r => pure r
    | .error e => throw (.badYaml e)
  let def0 ← match doc with
    | none => pure {}
    | some d =>
      match readRoot d (readFeatureDef (text.length + 2)) with
      | (.error msg, _) => throw (.badYaml (.other msg))
      | (.ok r, failures) =>
        if !failures.isEmpty then throw (.unmarshal failures.toList)
        pure (r.getD {})
  if def0.name.isEmpty then throw .missingName
  pure def0

end DroneProtocol.Schema
