import Diorama.Scene.Program

namespace Diorama

namespace Subscription

variable {κ : Type}

def wants (s : Subscription κ) (e : HostEvent) : Bool :=
  s.event = e.name && s.target.all (e.entity = some ·)

/-- A subscription ends with the entity to which it is bound. -/
def isBound (w : World κ) (s : Subscription κ) : Bool := s.target.all w.isAlive

end Subscription

namespace Dispatch

variable {κ σ : Type}

def place (s : Handle (Subscription κ) × Subscription κ) (ms : Members (Subscription κ)) :
    Members (Subscription κ) := ms ++ [s]

/-- Let new subscriptions in, revoked ones and those to entities that are gone out. -/
def gather (w : World κ) (ms : Members (Subscription κ)) : Members (Subscription κ) × World κ :=
  let (ms, subscriptions) := w.subscriptions.call place ms
  let (kept, pruned) := ms.partition (·.2.isBound w)
  (kept, { w with subscriptions := subscriptions.forget (pruned.map (·.1)) })

structure Delivery (κ σ : Type) where
  members : Members (Subscription κ)
  failed : Nat
  stage : Stage κ σ

def report (scene event reason : String) : Event :=
  .speak .error Target.events scene (.plain s!"on:{event}")
    s!"event handler failed: {reason}"

def deliver (b : Behaviour κ σ) (scene : String) (e : HostEvent) :
    Members (Subscription κ) → Stage κ σ → Delivery κ σ
  | [], stage => ⟨[], 0, stage⟩
  | (h, s) :: rest, stage =>
    if s.wants e then
      let r := stage.call b s.code (.event e)
      let s' := { s with code := r.self }
      match r.ending.reason? with
      | none =>
        let d := deliver b scene e rest r.stage
        { d with members := (h, s') :: d.members }
      | some reason =>
        let d := deliver b scene e rest (r.stage.log (report scene e.name reason))
        { d with members := (h, s') :: d.members, failed := d.failed + 1 }
    else
      let d := deliver b scene e rest stage
      { d with members := (h, s) :: d.members }

end Dispatch

end Diorama
