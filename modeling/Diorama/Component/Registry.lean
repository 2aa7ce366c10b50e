import Diorama.Component.FieldType

namespace Diorama

structure ComponentType where
  name : String
  /-- In ascending order of their names. -/
  fields : List (String × FieldType) := []
  /-- Where a change starts that is made to a component the entity does not have. -/
  default? : Option Json := none

inductive TypeFault where
  | notObject (type : String)
  | field (type name : String) (misfit : Misfit)
  deriving DecidableEq

def TypeFault.message : TypeFault → String
  | .notObject type => s!"Component '{type}' data must be an object"
  | .field type name misfit => s!"Component '{type}' field '{name}': {misfit.message}"

namespace ComponentType

def faultFields? (name : String) (vs : List (String × Json)) :
    List (String × FieldType) → Option TypeFault
  | [] => none
  | (k, t) :: fields =>
    match (find? k vs).bind t.misfit? with
    | some m => some (.field name k m)
    | none => faultFields? name vs fields

def fault? (t : ComponentType) (v : Json) : Option TypeFault :=
  if t.fields.isEmpty then none
  else
    match v with
    | .obj vs => faultFields? t.name vs t.fields
    | _ => some (.notObject t.name)

def toJson (t : ComponentType) : Json :=
  .obj [("default", t.default?.getD .null), ("fields", .obj (FieldType.toJsonFields t.fields)),
    ("name", .str t.name)]

/-- A null default is none. -/
def ofParts? (parts : Parts) : Option ComponentType := do
  let fs ← parts.pick? ["name", "fields", "default"]
  let name ← (find? "name" fs).bind Json.string?
  let fields ← match find? "fields" fs with
    | some v => FieldType.declared? false v
    | none => some []
  let default? ← ((find? "default" fs).getD .null).optional? some
  return { name, fields, default? }

def ofJson? (v : Json) : Option ComponentType := v.parts?.bind ofParts?

def having (t : ComponentType) (name : String) (type : FieldType) : ComponentType :=
  { t with fields := put name type t.fields }

end ComponentType

abbrev Registry := Table String ComponentType

namespace Registry

def declare (r : Registry) (t : ComponentType) : Registry := r.insert t.name t

def default? (r : Registry) (name : String) : Option Json := (r.get? name).bind (·.default?)

def zero : Json := .num (.float ⟨0⟩)

def one : Json := .num (.float ⟨0x3ff0000000000000⟩)

def vec3 (x y z : Json) : Json := .obj [("x", x), ("y", y), ("z", z)]

/-- Where an entity is, unturned and in its own size. -/
def origin : Json := .obj [
  ("position", vec3 zero zero zero),
  ("rotation", .obj [("w", one), ("x", zero), ("y", zero), ("z", zero)]),
  ("scale", vec3 one one one)]

def shape (name : String) : ComponentType :=
  ({ name } : ComponentType).having "visible" .bool |>.having "withCollisions" .bool

def builtinTypes : List ComponentType := [
  { name := "Transform", default? := some origin : ComponentType }.having "position" .vec3
    |>.having "rotation" .quaternion |>.having "scale" .vec3,
  (shape "GLTFShape").having "src" .string,
  shape "BoxShape",
  shape "SphereShape",
  { name := "TextShape" : ComponentType }.having "value" .string
    |>.having "fontSize" .number |>.having "color" .color,
  { name := "Billboard" : ComponentType }.having "x" .bool |>.having "y" .bool |>.having "z" .bool,
  { name := "AvatarShape" : ComponentType }.having "id" .string
    |>.having "name" .string |>.having "bodyShape" .string |>.having "wearables" (.array .string),
  { name := "OnPointerDown" : ComponentType }.having "button" .string
    |>.having "hoverText" .string |>.having "distance" .number]

def builtin : Registry := builtinTypes.foldl declare ∅

end Registry

end Diorama
