import Diorama.Entity
import Diorama.Json.Decode
import Diorama.Json.Reader
import Diorama.Json.Printer

namespace Diorama

/-- A change that the host makes to its copy of the scene. -/
inductive Operation where
  | createEntity (entity : Entity)
  /-- The entity goes with all that is attached to it. -/
  | removeEntity (entity : Entity)
  | updateComponent (entity : Entity) (component : String) (value : Json)
  | removeComponent (entity : Entity) (component : String)

structure Request where
  id : RequestId
  query : String
  payload : Json

structure Batch where
  seq : Nat
  ops : List Operation
  queries : List Request

namespace Operation

def entity : Operation → Entity
  | .createEntity e => e
  | .removeEntity e => e
  | .updateComponent e _ _ => e
  | .removeComponent e _ => e

def component? : Operation → Option String
  | .updateComponent _ c _ => some c
  | .removeComponent _ c => some c
  | _ => none

def kinds : List String := ["createEntity", "removeEntity", "updateComponent", "removeComponent"]

def kind : Operation → String
  | .createEntity _ => "createEntity"
  | .removeEntity _ => "removeEntity"
  | .updateComponent .. => "updateComponent"
  | .removeComponent .. => "removeComponent"

def render (o : Operation) : List Char :=
  Json.brace (
    [("op", Json.quote o.kind), ("entityId", Nat.toDigits 10 o.entity.id)]
    ++ match o with
      | .updateComponent _ c v => [("component", Json.quote c), ("value", v.render)]
      | .removeComponent _ c => [("component", Json.quote c)]
      | _ => [])

def ofParts? (kind : String) (parts : Parts) : Option Operation :=
  let names := match kind with
    | "updateComponent" => ["entityId", "component", "value"]
    | "removeComponent" => ["entityId", "component"]
    | _ => ["entityId"]
  do
    let fs ← parts.pick? names
    let entity := Entity.mk (← (find? "entityId" fs).bind Json.nat?)
    match kind with
    | "createEntity" => return .createEntity entity
    | "removeEntity" => return .removeEntity entity
    | "updateComponent" =>
      let component ← (find? "component" fs).bind Json.string?
      return .updateComponent entity component (← find? "value" fs)
    | "removeComponent" =>
      return .removeComponent entity (← (find? "component" fs).bind Json.string?)
    | _ => none

def ofJson? (v : Json) : Option Operation := do
  let (kind, parts) ← v.tagged? "op"
  ofParts? kind parts

def ofDraft (room : Nat) (d : Draft) : Except Fault Operation := do
  let (kind, parts) ← d.tagged "op" kinds.contains room
  match ofParts? kind parts with
  | some o => return o
  | none => .error .mismatch

end Operation

namespace Request

def render (r : Request) : List Char :=
  Json.brace [("requestId", Json.quote r.id.text), ("query", Json.quote r.query),
    ("payload", r.payload.render)]

def text (r : Request) : String := .ofList r.render

structure Seen where
  id : Option String := none
  query : Option String := none
  payload : Option Json := none

def field (room : Nat) (p : Seen) (name : String) (d : Draft) : Except Fault Seen :=
  match name with
  | "requestId" => return { p with id := ← Draft.once p.id Draft.text d }
  | "query" => return { p with query := ← Draft.once p.query Draft.text d }
  | "payload" => return { p with payload := ← Draft.once p.payload (·.value room) d }
  | _ => do
    d.skip
    return p

def ofDraft (room : Nat) (d : Draft) : Except Fault Request := do
  let p ← d.record ["requestId", "query", "payload"] (field room) {}
  return ⟨⟨← Draft.required p.id⟩, ← Draft.required p.query, p.payload.getD .null⟩

/-- Values that are already read nest no deeper than they do. -/
def ofJson? (v : Json) : Option Request := (ofDraft v.height v.draft).toOption

end Request

namespace Batch

def isEmpty (b : Batch) : Bool := b.ops.isEmpty && b.queries.isEmpty

/-- The questions are left out where there are none. -/
def render (b : Batch) : List Char :=
  Json.brace (
    [("tickSeq", Nat.toDigits 10 b.seq), ("ops", Json.bracket (b.ops.map Operation.render))]
    ++ if b.queries.isEmpty then [] else [("queries", Json.bracket (b.queries.map Request.render))])

def text (b : Batch) : String := .ofList b.render

structure Seen where
  seq : Option Nat := none
  ops : Option (List Operation) := none
  queries : Option (List Request) := none

/-- An operation or question stands in a list in the batch, which takes three levels of nesting. -/
def field (p : Seen) (name : String) (d : Draft) : Except Fault Seen :=
  match name with
  | "tickSeq" => return { p with seq := ← Draft.once p.seq Draft.nat d }
  | "ops" =>
    return { p with ops := ← Draft.once p.ops (Draft.list (Operation.ofDraft (Json.room - 3))) d }
  | "queries" =>
    let read := Draft.list (Request.ofDraft (Json.room - 3))
    return { p with queries := ← Draft.once p.queries read d }
  | _ => do
    d.skip
    return p

def ofDraft (d : Draft) : Except Fault Batch := do
  let p ← d.record ["tickSeq", "ops", "queries"] field {}
  return ⟨← Draft.required p.seq, ← Draft.required p.ops, p.queries.getD []⟩

def parse (s : List Char) : Except Fault Batch := Draft.decode ofDraft s

end Batch

end Diorama
