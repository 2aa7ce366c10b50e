import Diorama.Entity
import Diorama.Json.Basic

namespace Diorama

structure Store where
  rows : Table Entity (Table String Json) := ∅
  deriving Inhabited

namespace Store

def row (s : Store) (e : Entity) : Table String Json := (s.rows.get? e).getD ∅

def get? (s : Store) (e : Entity) (c : String) : Option Json := (s.row e).get? c

def contains (s : Store) (e : Entity) (c : String) : Bool := (s.get? e c).isSome

def names (s : Store) (e : Entity) : List String := (s.row e).keys

def size (s : Store) : Nat := s.rows.values.foldr (fun row n => row.size + n) 0

def isEmpty (s : Store) : Bool := s.rows.isEmpty

def insert (s : Store) (e : Entity) (c : String) (v : Json) : Option Json × Store :=
  (s.get? e c, ⟨s.rows.insert e ((s.row e).insert c v)⟩)

/-- An entity without components has no row. -/
def remove (s : Store) (e : Entity) (c : String) : Option Json × Store :=
  let rest := (s.row e).erase c
  (s.get? e c, ⟨if rest.isEmpty then s.rows.erase e else s.rows.insert e rest⟩)

def removeEntity (s : Store) (e : Entity) : List String × Store := (s.names e, ⟨s.rows.erase e⟩)

end Store

end Diorama
