import Diorama.Json.Decode
import Diorama.Json.Printer

/-!
What the fields of a component hold. A value fits a type when every part that the type speaks of is
of the kind it names there; fields that are not declared, and declared fields that are not there,
never matter.
-/

namespace Diorama

inductive FieldType where
  | number
  | string
  | bool
  | vec2
  | vec3
  | quaternion
  | color
  | entity
  | array (element : FieldType)
  | object (fields : List (String × FieldType))
  | any
  deriving Inhabited

inductive Complaint where
  | notNumber
  | notString
  | notBool
  | missingNumbers (names : List String)
  | notNumbers (names : List String)
  | notHex
  | missingColors
  | notColor
  | notEntity
  | notArray
  | notObject
  deriving DecidableEq

def Complaint.message : Complaint → String
  | .notNumber => "expected a number"
  | .notString => "expected a string"
  | .notBool => "expected a boolean"
  | .missingNumbers names => "expected an object with " ++ ", ".intercalate names ++ " fields"
  | .notNumbers names => ", ".intercalate names ++ " must be numbers"
  | .notHex => "expected a hex color string (#RRGGBB or #RRGGBBAA)"
  | .missingColors => "expected an object with r, g, b fields (a is optional)"
  | .notColor => "expected a hex string or \x7b r, g, b, a \x7d object"
  | .notEntity => "expected an entity ID (number)"
  | .notArray => "expected an array"
  | .notObject => "expected an object"

inductive Descent where
  | element (index : Nat)
  | field (name : String)
  deriving DecidableEq

def Descent.message : Descent → String
  | .element i => s!"element [{i}]: "
  | .field name => s!"field '{name}': "

structure Misfit where
  path : List Descent
  complaint : Complaint
  deriving DecidableEq

namespace Misfit

def under (d : Descent) (m : Misfit) : Misfit := { m with path := d :: m.path }

def message (m : Misfit) : String := String.join (m.path.map Descent.message) ++ m.complaint.message

end Misfit

namespace FieldType

def isNumber : Json → Bool
  | .num _ => true
  | _ => false

def numbersComplaint (names : List String) (v : Json) : Option Complaint :=
  match v with
  | .obj fs => names.findSome? fun k =>
    match find? k fs with
    | none => some (.missingNumbers names)
    | some (.num _) => none
    | some _ => some (.notNumbers names)
  | _ => some (.missingNumbers names)

/-- The length of a hex color is counted in bytes. -/
def colorComplaint : Json → Option Complaint
  | .str s =>
    let n := s.utf8ByteSize
    if s.toList.head? = some '#' ∧ (n = 7 ∨ n = 9) then none else some .notHex
  | .obj fs =>
    if ["r", "g", "b"].all fun k => (find? k fs).isSome then none else some .missingColors
  | _ => some .notColor

/-- What a type has to say against a value before it looks into it. -/
def complaint : FieldType → Json → Option Complaint
  | .number, .num _ | .string, .str _ | .bool, .bool _ => none
  | .array _, .arr _ | .object _, .obj _ => none
  | .number, _ => some .notNumber
  | .string, _ => some .notString
  | .bool, _ => some .notBool
  | .vec2, v => numbersComplaint ["x", "y"] v
  | .vec3, v => numbersComplaint ["x", "y", "z"] v
  | .quaternion, v => numbersComplaint ["x", "y", "z", "w"] v
  | .color, v => colorComplaint v
  | .entity, v => if v.nat?.isSome then none else some .notEntity
  | .array _, _ => some .notArray
  | .object _, _ => some .notObject
  | .any, _ => none

def firstItem (check : Json → Option Misfit) (i : Nat) : List Json → Option Misfit
  | [] => none
  | v :: vs =>
    match check v with
    | some m => some (m.under (.element i))
    | none => firstItem check (i + 1) vs

mutual

def misfit? (t : FieldType) (v : Json) : Option Misfit :=
  match complaint t v with
  | some c => some ⟨[], c⟩
  | none =>
    match t with
    | .array element =>
      match v with
      | .arr vs => firstItem element.misfit? 0 vs
      | _ => none
    | .object fields =>
      match v with
      | .obj vs => misfitFields? fields vs
      | _ => none
    | _ => none

def misfitFields? (fields : List (String × FieldType)) (vs : List (String × Json)) :
    Option Misfit :=
  match fields with
  | [] => none
  | (k, t) :: fields =>
    match (find? k vs).bind t.misfit? with
    | some m => some (m.under (.field k))
    | none => misfitFields? fields vs

end

def fits (t : FieldType) (v : Json) : Bool := (t.misfit? v).isNone

def scalar? : String → Option FieldType
  | "number" => some .number
  | "string" => some .string
  | "bool" => some .bool
  | "vec2" => some .vec2
  | "vec3" => some .vec3
  | "quaternion" => some .quaternion
  | "color" => some .color
  | "entity" => some .entity
  | "any" => some .any
  | _ => none

/-- The names of the types. Inside another type the place in this list stands for the name. -/
def names : List String :=
  ["number", "string", "bool", "vec2", "vec3", "quaternion", "color", "entity", "array", "object",
    "any"]

def name? (inner : Bool) : Json → Option String
  | .str s => some s
  | .num n => if inner then n.toNat?.bind fun i => names[i]? else none
  | _ => none

mutual

def toJson : FieldType → Json
  | .number => .obj [("type", .str "number")]
  | .string => .obj [("type", .str "string")]
  | .bool => .obj [("type", .str "bool")]
  | .vec2 => .obj [("type", .str "vec2")]
  | .vec3 => .obj [("type", .str "vec3")]
  | .quaternion => .obj [("type", .str "quaternion")]
  | .color => .obj [("type", .str "color")]
  | .entity => .obj [("type", .str "entity")]
  | .any => .obj [("type", .str "any")]
  | .array element => .obj [("element", toJson element), ("type", .str "array")]
  | .object fields => .obj [("fields", .obj (toJsonFields fields)), ("type", .str "object")]

def toJsonFields : List (String × FieldType) → List (String × Json)
  | [] => []
  | (k, t) :: fields => (k, toJson t) :: toJsonFields fields

end

mutual

def ofJson? (inner : Bool) : Json → Option FieldType
  | .obj fs => do
    match ← (find? "type" fs).bind (name? inner) with
    | "array" => (element? fs).map .array
    | "object" => (fields? fs).map .object
    | name => scalar? name
  | .arr [tag] => (name? inner tag).bind scalar?
  | .arr [tag, v] => do
    match ← name? inner tag with
    | "array" => (ofJson? true v).map .array
    | "object" => (declared? true v).map .object
    | _ => none
  | _ => none

def element? : List (String × Json) → Option FieldType
  | [] => none
  | (k, v) :: fs => if k = "element" then ofJson? true v else element? fs

def fields? : List (String × Json) → Option (List (String × FieldType))
  | [] => none
  | (k, v) :: fs => if k = "fields" then declared? true v else fields? fs

def declared? (inner : Bool) : Json → Option (List (String × FieldType))
  | .obj fs => declaredFields? inner fs
  | _ => none

def declaredFields? (inner : Bool) : List (String × Json) → Option (List (String × FieldType))
  | [] => some []
  | (k, v) :: fs => do return (k, ← ofJson? inner v) :: (← declaredFields? inner fs)

end

end FieldType

end Diorama
