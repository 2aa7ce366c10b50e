import Diorama.Entity

/-!
What has changed since the host was last told: entities that came and went, and components that were
touched, each in the order of its first change. The values themselves are looked up when the host is
told.
-/

namespace Diorama

structure Changes where
  created : List Entity := []
  destroyed : List Entity := []
  touched : List (Entity × List String) := []
  deriving Inhabited, DecidableEq

def note {α : Type} [DecidableEq α] (a : α) (as : List α) : List α :=
  if a ∈ as then as else as ++ [a]

namespace Changes

def isEmpty (c : Changes) : Bool := c.created.isEmpty && c.destroyed.isEmpty && c.touched.isEmpty

def create (c : Changes) (e : Entity) : Changes := { c with created := note e c.created }

def destroy (c : Changes) (e : Entity) : Changes := { c with destroyed := note e c.destroyed }

def touchIn (e : Entity) (name : String) : List (Entity × List String) → List (Entity × List String)
  | [] => [(e, [name])]
  | (f, names) :: rest =>
    if f = e then (f, note name names) :: rest else (f, names) :: touchIn e name rest

def touch (c : Changes) (e : Entity) (name : String) : Changes :=
  { c with touched := touchIn e name c.touched }

end Changes

end Diorama
