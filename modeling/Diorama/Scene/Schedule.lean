import Diorama.Scene.Program

/-!
The systems of a scene. They run once in a tick, in ascending order of priority, and those of one
priority in the order in which they were registered. One that fails does not keep the others from
running.
-/

namespace Diorama

namespace Schedule

variable {κ σ : Type}

/-- Place a system after all that do not have a higher priority. -/
def place (s : Handle (System κ) × System κ) (ms : Members (System κ)) : Members (System κ) :=
  let first := ms.takeWhile (·.2.priority ≤ s.2.priority)
  first ++ s :: ms.drop first.length

structure Pass (κ σ : Type) where
  members : Members (System κ)
  failures : List Failure
  stage : Stage κ σ

def report (scene name reason : String) : Event :=
  .speak .error Target.systems scene (.plain name) s!"update failed: {reason}"

def pass (b : Behaviour κ σ) (scene : String) (dt : Binary64) :
    Members (System κ) → Stage κ σ → Pass κ σ
  | [], stage => ⟨[], [], stage⟩
  | (h, s) :: rest, stage =>
    let r := stage.call b s.code (.update dt)
    let s' := { s with code := r.self }
    match r.ending.reason? with
    | none =>
      let p := pass b scene dt rest r.stage
      { p with members := (h, s') :: p.members }
    | some reason =>
      let p := pass b scene dt rest (r.stage.log (report scene s.name reason))
      { p with members := (h, s') :: p.members, failures := .system s.name reason :: p.failures }

/-- Let the registered systems in, the revoked ones out, and run them. -/
def run (b : Behaviour κ σ) (scene : String) (dt : Binary64) (ms : Members (System κ))
    (stage : Stage κ σ) : Pass κ σ :=
  let (ms, systems) := stage.world.systems.call place ms
  pass b scene dt ms { stage with world := { stage.world with systems } }

end Schedule

end Diorama
