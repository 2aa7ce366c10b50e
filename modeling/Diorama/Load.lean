import Diorama.Json.Reader

namespace Diorama

inductive Source where
  | text (s : String)
  /-- The bytes of a file; none if there is no such file. -/
  | file (bytes : Option (List UInt8))

inductive CatalogFault where
  | keyMismatch (key id : String)
  | emptyId
  | duplicateId (id : String)
  | noRepresentations (id : String)
  | unlistedMainFile (id file : String)
  deriving DecidableEq

def CatalogFault.message : CatalogFault → String
  | .keyMismatch key id => s!"key '{key}' does not match record id '{id}'"
  | .emptyId => "record with empty id"
  | .duplicateId id => s!"duplicate record id '{id}'"
  | .noRepresentations id => s!"record '{id}' has no representations"
  | .unlistedMainFile id file => s!"record '{id}': main file '{file}' is not listed in contents"

inductive LoadError where
  | noFile
  | notText
  | unreadable (fault : Fault)
  | invalid
  | catalog (fault : CatalogFault)
  deriving DecidableEq

def LoadError.message : LoadError → String
  | .noFile => "Failed to read file"
  | .notText => "Failed to read file"
  | .unreadable _ => "JSON parse error"
  | .invalid => "Schema validation failed"
  | .catalog f => s!"Invalid catalog: {f.message}"

namespace Source

def content : Source → Except LoadError String
  | .text s => .ok s
  | .file none => .error .noFile
  | .file (some bytes) =>
    match String.fromUTF8? ⟨bytes.toArray⟩ with
    | some s => .ok s
    | none => .error .notText

def json (s : Source) : Except LoadError Json := do
  (Json.parse (← s.content).toList).mapError .unreadable

end Source

end Diorama
