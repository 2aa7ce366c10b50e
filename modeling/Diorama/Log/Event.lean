import Diorama.Log.Level

namespace Diorama

inductive FieldValue where
  /-- As a string, which is quoted where it is shown with its name. -/
  | quoted (s : String)
  /-- As the text of some value. -/
  | plain (s : String)
  deriving DecidableEq

namespace Target

def session : String := "scene_runtime::session"
def systems : String := "scene_runtime::ecs::system"
def events : String := "scene_runtime::bridge::events"
def inbound : String := "scene_runtime::bridge::inbound"
def outbound : String := "scene_runtime::bridge::outbound"
def stream : String := "scene_runtime::bridge::port"
def catalog : String := "scene_schema::loader"

end Target

structure Event where
  level : Level
  target : String
  message : Option String
  fields : List (String × FieldValue) := []
  deriving DecidableEq

namespace Event

/-- The names of all that is recorded, of which the message is one. -/
def fieldNames (e : Event) : List String :=
  (e.message.map fun _ => "message").toList ++ e.fields.map (·.1)

def say (level : Level) (target text : String) : Event := ⟨level, target, some text, []⟩

def speak (level : Level) (target scene : String) (part : FieldValue) (text : String) : Event :=
  ⟨level, target, some text, [("scene_id", .plain scene), ("system", part)]⟩

end Event

end Diorama
