import Diorama.Entity
import Diorama.Json.Decode
import Diorama.Json.Reader
import Diorama.Json.Printer

namespace Diorama

inductive HostMessage where
  | event (name : String) (entity : Option Entity) (payload : Json)
  /-- With an error text the host could not answer. -/
  | response (request : RequestId) (payload : Json) (error : Option String)

namespace HostMessage

def kind : HostMessage → String
  | .event .. => "event"
  | .response .. => "queryResponse"

def entity? : HostMessage → Option Entity
  | .event _ e _ => e
  | .response .. => none

def render : HostMessage → List Char
  | .event name entity payload =>
    Json.brace (
      [("type", Json.quote "event"), ("eventName", Json.quote name)]
      ++ (entity.map fun e => ("entityId", Nat.toDigits 10 e.id)).toList
      ++ [("payload", payload.render)])
  | .response request payload error =>
    Json.brace (
      [("type", Json.quote "queryResponse"), ("requestId", Json.quote request.text),
        ("payload", payload.render)]
      ++ (error.map fun m => ("error", Json.quote m)).toList)

def text (m : HostMessage) : String := .ofList m.render

def isKind (s : String) : Bool := s = "event" || s = "queryResponse"

def ofParts? (kind : String) (parts : Parts) : Option HostMessage :=
  if kind = "event" then do
    let fs ← parts.pick? ["eventName", "entityId", "payload"]
    let name ← (find? "eventName" fs).bind Json.string?
    let entity ← ((find? "entityId" fs).getD .null).optional? Json.nat?
    return .event name (entity.map .mk) ((find? "payload" fs).getD .null)
  else do
    let fs ← parts.pick? ["requestId", "payload", "error"]
    let request ← (find? "requestId" fs).bind Json.string?
    let error ← ((find? "error" fs).getD .null).optional? Json.string?
    return .response ⟨request⟩ ((find? "payload" fs).getD .null) error

def ofDraft (d : Draft) : Except Fault HostMessage := do
  let (kind, parts) ← d.tagged "type" isKind (Json.room - 1)
  match ofParts? kind parts with
  | some m => return m
  | none => .error .mismatch

def parse (s : List Char) : Except Fault HostMessage := Draft.decode ofDraft s

end HostMessage

end Diorama
