import Diorama.Json.Decode
import Diorama.Scene.Entities
import Diorama.Scene.Store

namespace Diorama

structure Filter where
  present : List String
  absent : List String
  limit : Option Nat := none

namespace Filter

/-- The wire form, in which the limit alone may be left out. -/
def ofJson? (v : Json) : Option Filter := do
  let parts ← v.parts?
  if let .listed vs := parts then guard (vs.length = 3)
  let fs ← parts.pick? ["with_components", "without_components", "limit"]
  let names := fun k => (find? k fs).bind (Json.list? Json.string?)
  let limit ← ((find? "limit" fs).getD .null).optional? Json.nat?
  return { present := ← names "with_components", absent := ← names "without_components", limit }

def admits (f : Filter) (s : Store) (e : Entity) : Bool :=
  f.present.all (s.contains e) && !f.absent.any (s.contains e)

def cut {α : Type} (f : Filter) (as : List α) : List α :=
  match f.limit with
  | some n => as.take n
  | none => as

end Filter

structure Match where
  entity : Entity
  components : Table String Json

end Diorama
