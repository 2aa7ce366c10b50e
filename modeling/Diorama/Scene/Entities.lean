import Diorama.Entity
import Diorama.Failure

namespace Diorama

structure Entities where
  next : Nat := 1
  alive : Table Entity Unit := ∅
  deriving Inhabited

namespace Entities

def isAlive (es : Entities) (e : Entity) : Bool := es.alive.contains e

def toList (es : Entities) : List Entity := es.alive.keys

def size (es : Entities) : Nat := es.alive.size

def isEmpty (es : Entities) : Bool := es.alive.isEmpty

def create (es : Entities) : Entity × Entities :=
  (⟨es.next⟩, { next := es.next + 1, alive := es.alive.insert ⟨es.next⟩ () })

def ensureAlive (es : Entities) (e : Entity) : Except Failure Unit :=
  if es.isAlive e then .ok () else .error (.unknownEntity e)

def destroy (es : Entities) (e : Entity) : Except Failure Entities :=
  if es.isAlive e then .ok { es with alive := es.alive.erase e } else .error (.unknownEntity e)

end Entities

end Diorama
