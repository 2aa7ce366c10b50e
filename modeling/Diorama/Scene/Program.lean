import Diorama.Json.Binary64
import Diorama.Log.Event
import Diorama.Scene.World

namespace Diorama

inductive Action (κ : Type) where
  | create
  | destroy (entity : Entity)
  | attach (entity : Entity) (component : String) (value : Json)
  | mutate (entity : Entity) (component : String) (change : Json → Except Panic Json)
  | detach (entity : Entity) (component : String)
  | declare (type : ComponentType)
  | register (system : System κ)
  | unregister (handle : Handle (System κ))
  | subscribe (subscription : Subscription κ)
  | unsubscribe (handle : Handle (Subscription κ))
  | ask (query : String) (payload : Json) (code : κ)
  | cancel (request : RequestId)

@[reducible] def Action.Reply {κ : Type} : Action κ → Type
  | create => Entity
  | destroy _ => Except Failure Unit
  | attach .. => Except Failure Unit
  | mutate .. => Except Setback Unit
  | detach .. => Except Failure Bool
  | declare _ => Unit
  | register _ => Handle (System κ)
  | unregister _ => Bool
  | subscribe _ => Handle (Subscription κ)
  | unsubscribe _ => Bool
  | ask .. => RequestId
  | cancel _ => Bool

namespace World

variable {κ ε : Type}

/-- The world after a change that may have failed, in which case it stays as it was. -/
def settle (w : World κ) : Except ε (World κ) → Except ε Unit × World κ
  | .ok w' => (.ok (), w')
  | .error e => (.error e, w)

def perform (w : World κ) : (a : Action κ) → a.Reply × World κ
  | .create => w.create
  | .destroy e => w.settle (w.destroy e)
  | .attach e c v => w.settle (w.attach e c v)
  | .mutate e c f => w.settle (w.mutate e c f)
  | .detach e c =>
    match w.detach e c with
    | .ok (b, w') => (.ok b, w')
    | .error f => (.error f, w)
  | .declare t => ((), w.declare t)
  | .register s => w.register s
  | .unregister h => w.unregister h
  | .subscribe s => w.subscribe s
  | .unsubscribe h => w.unsubscribe h
  | .ask q v k => w.ask q v k
  | .cancel id => w.cancel id

end World

inductive Ending where
  | returned
  | failed (reason : String)
  | panicked (p : Panic)

def Ending.reason? : Ending → Option String
  | returned => none
  | failed reason => some reason
  | panicked p => some s!"panicked: {p.message}"

/-- One call of code. Code ends with what it will be at its next call, and with the memory that it
shares with all other code. -/
inductive Program (κ σ : Type) where
  | finish (self : κ) (memory : σ) (ending : Ending)
  | act (action : Action κ) (next : action.Reply → Program κ σ)
  | look (next : World κ → Program κ σ)

inductive Occasion where
  | update (dt : Binary64)
  | event (event : HostEvent)
  | outcome (outcome : Outcome)

/-- The interpreter of a kind of code. -/
abbrev Behaviour (κ σ : Type) := κ → Occasion → σ → Program κ σ

structure Stage (κ σ : Type) where
  world : World κ
  memory : σ
  journal : List Event := []

structure Return (κ σ : Type) where
  self : κ
  ending : Ending
  stage : Stage κ σ

namespace Program

variable {κ σ : Type}

/-- Attach a value of another type, as the document it was written as. One that cannot be written
fails before anything else is looked at. -/
def attachAs (e : Entity) (c : String) (written : Except Misread Json)
    (next : Except Failure Unit → Program κ σ) : Program κ σ :=
  match written with
  | .ok v => .act (.attach e c v) next
  | .error why => next (.error (.unreadable why))

def run : Program κ σ → Stage κ σ → Return κ σ
  | finish self memory ending, s => ⟨self, ending, { s with memory }⟩
  | act a next, s =>
    let (r, world) := s.world.perform a
    run (next r) { s with world }
  | look next, s => run (next s.world) s

end Program

namespace Stage

variable {κ σ : Type}

def log (s : Stage κ σ) (e : Event) : Stage κ σ := { s with journal := s.journal ++ [e] }

def call (s : Stage κ σ) (b : Behaviour κ σ) (code : κ) (o : Occasion) : Return κ σ :=
  (b code o s.memory).run s

end Stage

end Diorama
