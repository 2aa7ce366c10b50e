import Diorama.Scene.Changes
import Diorama.Scene.Filter
import Diorama.Scene.Queries
import Diorama.Scene.Roster

/-!
The world of a scene: its living entities with their components, and all that the code of the scene
has set going in it. What a piece of code does is up to its interpreter; the world only keeps it, as
`κ`.
-/

namespace Diorama

structure HostEvent where
  name : String
  entity : Option Entity
  payload : Json

structure System (κ : Type) where
  name : String
  priority : Int
  code : κ

/-- Code that runs for the events of a name: for all of them, or for those of one entity. -/
structure Subscription (κ : Type) where
  event : String
  target : Option Entity
  code : κ

inductive Panic where
  | text (s : String)
  /-- With something that is not text. -/
  | other
  deriving DecidableEq

def Panic.message : Panic → String
  | text s => s
  | other => "unknown panic"

inductive Setback where
  | failure (f : Failure)
  | panic (p : Panic)

structure World (κ : Type) where
  entities : Entities := {}
  store : Store := {}
  types : Registry := .builtin
  changes : Changes := {}
  queries : Queries κ := {}
  systems : Roster (System κ) := {}
  subscriptions : Roster (Subscription κ) := {}
  /-- The number of the tick that is under way, zero before the first. -/
  tick : Nat := 0

namespace World

variable {κ : Type}

instance : Inhabited (World κ) := ⟨{}⟩

def isAlive (w : World κ) (e : Entity) : Bool := w.entities.isAlive e

def create (w : World κ) : Entity × World κ :=
  let (e, entities) := w.entities.create
  (e, { w with entities, changes := w.changes.create e })

def destroy (w : World κ) (e : Entity) : Except Failure (World κ) := do
  let entities ← w.entities.destroy e
  let (names, store) := w.store.removeEntity e
  let changes := (names.foldl (·.touch e ·) w.changes).destroy e
  return { w with entities, store, changes }

def put (w : World κ) (e : Entity) (c : String) (v : Json) : World κ :=
  { w with store := (w.store.insert e c v).2, changes := w.changes.touch e c }

/-- Set a component, in place of the one of its type that the entity has. -/
def attach (w : World κ) (e : Entity) (c : String) (v : Json) : Except Failure (World κ) := do
  w.entities.ensureAlive e
  w.types.check c v
  return w.put e c v

def get? (w : World κ) (e : Entity) (c : String) : Option Json :=
  if w.isAlive e then w.store.get? e c else none

def getAs {α : Type} (w : World κ) (e : Entity) (c : String) (read : Json → Except Misread α) :
    Except Failure (Option α) :=
  match w.get? e c with
  | none => .ok none
  | some v => ((read v).map some).mapError .unreadable

def has (w : World κ) (e : Entity) (c : String) : Bool := (w.get? e c).isSome

/-- What a change of a component starts from: its value, or else the one its type declares. -/
def base (w : World κ) (e : Entity) (c : String) : Except Failure Json := do
  w.entities.ensureAlive e
  if !w.types.contains c then .error (.unknownType c)
  match w.store.get? e c <|> w.types.default? c with
  | some v => return v
  | none => .error (.componentNotFound e c)

/-- Change a component. The outcome must be of its type. -/
def mutate (w : World κ) (e : Entity) (c : String) (change : Json → Except Panic Json) :
    Except Setback (World κ) := do
  let v ← (w.base e c).mapError .failure
  let v ← (change v).mapError .panic
  (w.types.check c v).mapError .failure
  return w.put e c v

def detach (w : World κ) (e : Entity) (c : String) : Except Failure (Bool × World κ) := do
  w.entities.ensureAlive e
  let (old, store) := w.store.remove e c
  if old.isSome then return (true, { w with store, changes := w.changes.touch e c })
  return (false, w)

def componentsOf (w : World κ) (e : Entity) : List String :=
  if w.isAlive e then w.store.names e else []

def select (w : World κ) (f : Filter) : List Match :=
  (f.cut (w.entities.toList.filter (f.admits w.store))).map fun e =>
    ⟨e, .ofList (f.present.filterMap fun c => (w.store.get? e c).map (c, ·))⟩

def declare (w : World κ) (t : ComponentType) : World κ := { w with types := w.types.declare t }

/-- A system runs from the next tick on. -/
def register (w : World κ) (s : System κ) : Handle (System κ) × World κ :=
  let (h, systems) := w.systems.join s
  (h, { w with systems })

def unregister (w : World κ) (h : Handle (System κ)) : Bool × World κ :=
  let (b, systems) := w.systems.leave h
  (b, { w with systems })

/-- A subscription hears of events from the next dispatch on. -/
def subscribe (w : World κ) (s : Subscription κ) : Handle (Subscription κ) × World κ :=
  let (h, subscriptions) := w.subscriptions.join s
  (h, { w with subscriptions })

def unsubscribe (w : World κ) (h : Handle (Subscription κ)) : Bool × World κ :=
  let (b, subscriptions) := w.subscriptions.leave h
  (b, { w with subscriptions })

def ask (w : World κ) (query : String) (payload : Json) (code : κ) : RequestId × World κ :=
  let (id, queries) := w.queries.issue query payload code
  (id, { w with queries })

def cancel (w : World κ) (id : RequestId) : Bool × World κ :=
  let (b, queries) := w.queries.cancel id
  (b, { w with queries })

end World

end Diorama
