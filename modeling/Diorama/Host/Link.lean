import Diorama.Failure
import Diorama.Wire.HostMessage

/-!
The link between a scene and its host: two lanes of text frames, one in each direction. A lane keeps
the order of the frames and loses none of them, and neither end ever waits for the other.
-/

namespace Diorama

/-- One direction. Frames still arrive when their sender is gone, but none can be sent to a receiver
that is. -/
structure Lane where
  taken : List String := []
  waiting : List String := []
  hasSender : Bool := true
  hasReceiver : Bool := true
  deriving DecidableEq, Inhabited

namespace Lane

/-- All frames that were ever sent, oldest first. -/
def frames (l : Lane) : List String := l.taken ++ l.waiting

def send? (l : Lane) (frame : String) : Option Lane :=
  if l.hasReceiver then some { l with waiting := l.waiting ++ [frame] } else none

def next (l : Lane) : Option String × Lane :=
  match l.waiting with
  | [] => (none, l)
  | frame :: rest => (some frame, { l with taken := l.taken ++ [frame], waiting := rest })

def takeAll (l : Lane) : List String × Lane :=
  (l.waiting, { l with taken := l.taken ++ l.waiting, waiting := [] })

/-- Nothing is waiting, and nothing will ever be. -/
def isDry (l : Lane) : Bool := l.waiting.isEmpty && !l.hasSender

def dropSender (l : Lane) : Lane := { l with hasSender := false }

def dropReceiver (l : Lane) : Lane := { l with hasReceiver := false }

end Lane

structure Link where
  toHost : Lane := {}
  toScene : Lane := {}
  deriving DecidableEq, Inhabited

namespace Link

def sceneSend (l : Link) (frame : String) : Except Failure Link :=
  match l.toHost.send? frame with
  | some toHost => .ok { l with toHost }
  | none => .error (.link .hostGone)

def sceneReceive (l : Link) : Except Failure (Option String × Link) :=
  if l.toScene.isDry then .error (.link .hostGone)
  else
    let (frame, toScene) := l.toScene.next
    .ok (frame, { l with toScene })

def hostSend (l : Link) (frame : String) : Except Failure Link :=
  match l.toScene.send? frame with
  | some toScene => .ok { l with toScene }
  | none => .error (.link .sceneGone)

def hostReceive (l : Link) : Option String × Link :=
  let (frame, toHost) := l.toHost.next
  (frame, { l with toHost })

def dropHost (l : Link) : Link := ⟨l.toHost.dropReceiver, l.toScene.dropSender⟩

def dropScene (l : Link) : Link := ⟨l.toHost.dropSender, l.toScene.dropReceiver⟩

end Link

end Diorama
