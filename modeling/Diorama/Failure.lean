import Diorama.Component.Registry
import Diorama.Json.Typed
import Diorama.Wire.Frame

namespace Diorama

inductive LinkFault where
  | hostGone
  | sceneGone
  /-- A session that has failed does not go on; the text tells of the first failure. -/
  | stopped (earlier : String)
  deriving DecidableEq

def LinkFault.message : LinkFault → String
  | .hostGone => "host side of the channel is closed"
  | .sceneGone => "scene side of the channel is closed"
  | .stopped earlier => s!"session stopped after an earlier failure: {earlier}"

inductive Failure where
  | unknownEntity (entity : Entity)
  | componentNotFound (entity : Entity) (component : String)
  | unknownType (component : String)
  | invalidValue (component : String) (fault : TypeFault)
  | system (name reason : String)
  | link (fault : LinkFault)
  | frame (error : FrameError)
  | unreadable (why : Misread)
  deriving DecidableEq

namespace Failure

def message : Failure → String
  | .unknownEntity e => s!"Unknown entity: {e.text}"
  | .componentNotFound e c => s!"Component '{c}' not found on {e.text}"
  | .unknownType c => s!"Unknown component type '{c}'"
  | .invalidValue c fault => s!"Invalid value for component '{c}': {fault.message}"
  | .system name reason => s!"System '{name}' failed: {reason}"
  | .link fault => s!"Message channel failure: {fault.message}"
  | .frame error => s!"Protocol error: {error.message}"
  | .unreadable why => s!"Serialization error: {why.message}"

def isFatal : Failure → Bool
  | .link _ | .frame _ => true
  | _ => false

end Failure

def Registry.check (r : Registry) (component : String) (v : Json) : Except Failure Unit :=
  match r.get? component with
  | none => .error (.unknownType component)
  | some t =>
    match t.fault? v with
    | some fault => .error (.invalidValue component fault)
    | none => .ok ()

end Diorama
