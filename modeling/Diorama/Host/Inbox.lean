import Diorama.Scene.Program
import Diorama.Wire.HostMessage

namespace Diorama

inductive Arrival where
  | event (event : HostEvent)
  | response (request : RequestId) (outcome : Outcome)

inductive Drop where
  | deadEntity (event : String) (entity : Entity)
  | unmatched (request : RequestId)
  | malformed (fault : Fault)

def Drop.report (target : String) : Drop → Event
  | deadEntity event e => .say .debug target s!"Dropping '{event}' event for destroyed {e.text}"
  | unmatched request => .say .debug target s!"Dropping response for unknown query '{request.text}'"
  | malformed fault =>
    let reason := (FrameError.unreadable fault).message
    .say .warn target s!"Dropping malformed inbound message: {reason}"

namespace Arrival

variable {κ : Type}

def ofMessage (w : World κ) : HostMessage → Except Drop Arrival
  | .event name entity payload =>
    match entity with
    | some e =>
      if w.isAlive e then .ok (.event ⟨name, some e, payload⟩) else .error (.deadEntity name e)
    | none => .ok (.event ⟨name, none, payload⟩)
  | .response request payload error =>
    if w.queries.isPending request then
      .ok (.response request (match error with
        | some message => .failed message
        | none => .resolved payload))
    else .error (.unmatched request)

def ofFrame (w : World κ) (frame : String) : Except Drop Arrival :=
  match HostMessage.parse frame.toList with
  | .ok m => ofMessage w m
  | .error fault => .error (.malformed fault)

end Arrival

end Diorama
