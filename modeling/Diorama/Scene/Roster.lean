/-!
Who takes part. Joining and leaving is noted at once and takes effect at the next call of the
roster, so it never disturbs a pass over the members that is under way.
-/

namespace Diorama

structure Handle (α : Type) where
  number : Nat

instance {α : Type} : DecidableEq (Handle α) := fun ⟨m⟩ ⟨n⟩ => decidable_of_iff (m = n) (by simp)

inductive Order (α : Type) where
  | join (handle : Handle α) (member : α)
  | leave (handle : Handle α)

/-- Members with their handles, in the order in which they are called. -/
abbrev Members (α : Type) := List (Handle α × α)

namespace Order

variable {α : Type}

/-- Carry out an order; where a new member stands is up to `place`. -/
def apply (place : Handle α × α → Members α → Members α) (ms : Members α) : Order α → Members α
  | join h a => place (h, a) ms
  | leave h => ms.filter (·.1 ≠ h)

end Order

structure Roster (α : Type) where
  issued : Nat := 0
  valid : List (Handle α) := []
  /-- Oldest first. -/
  orders : List (Order α) := []

namespace Roster

variable {α : Type}

instance : Inhabited (Roster α) := ⟨{}⟩

def join (r : Roster α) (a : α) : Handle α × Roster α :=
  let h : Handle α := ⟨r.issued + 1⟩
  (h, { issued := r.issued + 1, valid := r.valid ++ [h], orders := r.orders ++ [.join h a] })

/-- Revoke a handle, which works once. -/
def leave (r : Roster α) (h : Handle α) : Bool × Roster α :=
  if h ∈ r.valid then
    (true, { r with valid := r.valid.filter (· ≠ h), orders := r.orders ++ [.leave h] })
  else (false, r)

def call (place : Handle α × α → Members α → Members α) (r : Roster α) (ms : Members α) :
    Members α × Roster α :=
  (r.orders.foldl (Order.apply place) ms, { r with orders := [] })

/-- Take back the handles of members that are gone. -/
def forget (r : Roster α) (hs : List (Handle α)) : Roster α :=
  { r with valid := r.valid.filter (· ∉ hs) }

end Roster

end Diorama
