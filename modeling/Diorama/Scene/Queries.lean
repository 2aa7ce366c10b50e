import Diorama.Table
import Diorama.Wire.Batch

namespace Diorama

inductive Outcome where
  | resolved (payload : Json)
  | failed (message : String)
  | timedOut

structure Pending (κ : Type) where
  /-- The tick whose batch carried the question, once one did. -/
  sent : Option Nat
  callback : κ

structure Queries (κ : Type) where
  issued : Nat := 0
  pending : Table RequestId (Pending κ) := ∅
  /-- Not sent yet, in the order of asking. -/
  outgoing : List Request := []

namespace Queries

variable {κ : Type}

instance : Inhabited (Queries κ) := ⟨{}⟩

def isPending (q : Queries κ) (id : RequestId) : Bool := q.pending.contains id

def size (q : Queries κ) : Nat := q.pending.size

def isEmpty (q : Queries κ) : Bool := q.pending.isEmpty

def issue (q : Queries κ) (query : String) (payload : Json) (callback : κ) :
    RequestId × Queries κ :=
  let id := RequestId.ofNat (q.issued + 1)
  (id, {
    issued := q.issued + 1
    pending := q.pending.insert id ⟨none, callback⟩
    outgoing := q.outgoing ++ [⟨id, query, payload⟩] })

/-- Forget a question, also one that is not sent yet. -/
def cancel (q : Queries κ) (id : RequestId) : Bool × Queries κ :=
  (q.isPending id,
    { q with pending := q.pending.erase id, outgoing := q.outgoing.filter (·.id ≠ id) })

def resolve (q : Queries κ) (id : RequestId) : Option κ × Queries κ :=
  ((q.pending.get? id).map (·.callback), { q with pending := q.pending.erase id })

def Pending.expired (now timeout : Nat) (p : Pending κ) : Bool :=
  p.sent.any fun sent => timeout ≤ now - sent

/-- Take out the questions whose time is up, in ascending order of their names. Without a limit
there are none. -/
def expire (q : Queries κ) (now timeout : Nat) : List (RequestId × κ) × Queries κ :=
  if timeout = 0 then ([], q)
  else
    let gone := q.pending.entries.filter fun e => Pending.expired now timeout e.2
    (gone.map fun e => (e.1, e.2.callback),
      { q with pending := gone.foldl (fun t e => t.erase e.1) q.pending })

def stamp (tick : Nat) (t : Table RequestId (Pending κ)) (r : Request) :
    Table RequestId (Pending κ) :=
  match t.get? r.id with
  | some p => t.insert r.id { p with sent := some tick }
  | none => t

def takeOutgoing (q : Queries κ) (tick : Nat) : List Request × Queries κ :=
  (q.outgoing, { q with outgoing := [], pending := q.outgoing.foldl (stamp tick) q.pending })

end Queries

end Diorama
