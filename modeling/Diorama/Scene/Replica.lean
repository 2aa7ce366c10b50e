import Diorama.Scene.Changes
import Diorama.Scene.Store
import Diorama.Wire.Batch

/-!
What the host knows. Once in a tick it is told of the changes, and only of what it does not know
yet: first of the entities that are new, then of the components that differ, last of the entities
that are gone.
-/

namespace Diorama

structure Replica where
  entities : Table Entity Unit := ∅
  store : Store := {}
  deriving Inhabited

namespace Replica

def knows (r : Replica) (e : Entity) : Bool := r.entities.contains e

def tellCreated (destroyed : List Entity) (r : Replica) (e : Entity) : List Operation × Replica :=
  if e ∈ destroyed then ([], r)
  else ([.createEntity e], { r with entities := r.entities.insert e () })

def tellComponent (s : Store) (e : Entity) (r : Replica) (c : String) : List Operation × Replica :=
  match s.get? e c with
  | some v =>
    if (r.store.get? e c).any (·.same v) then ([], r)
    else ([.updateComponent e c v], { r with store := (r.store.insert e c v).2 })
  | none =>
    let (known, store) := r.store.remove e c
    (if known.isSome then [.removeComponent e c] else [], { r with store })

/-- An entity that was created and destroyed since the host was last told is shown to it for a
moment. -/
def tellDestroyed (created : List Entity) (r : Replica) (e : Entity) : List Operation × Replica :=
  if e ∈ created then ([.createEntity e, .removeEntity e], r)
  else if r.knows e then
    ([.removeEntity e],
      { entities := r.entities.erase e, store := (r.store.removeEntity e).2 })
  else ([], r)

def tellAll {α : Type} (tell : Replica → α → List Operation × Replica) (r : Replica) :
    List α → List Operation × Replica
  | [] => ([], r)
  | a :: as =>
    let (ops, r) := tell r a
    let (more, r) := tellAll tell r as
    (ops ++ more, r)

/-- Tell of the touched components of an entity. One that is gone takes them with it, and of one
that the host has never heard of it need not hear. -/
def tellTouched (destroyed : List Entity) (s : Store) (r : Replica) (t : Entity × List String) :
    List Operation × Replica :=
  if t.1 ∈ destroyed ∨ ¬ r.knows t.1 then ([], r) else tellAll (tellComponent s t.1) r t.2

def sync (r : Replica) (c : Changes) (s : Store) : List Operation × Replica :=
  let (created, r) := tellAll (tellCreated c.destroyed) r c.created
  let (touched, r) := tellAll (tellTouched c.destroyed s) r c.touched
  let (destroyed, r) := tellAll (tellDestroyed c.created) r c.destroyed
  (created ++ touched ++ destroyed, r)

end Replica

end Diorama
