import Diorama.Json.Draft
import Diorama.Json.Printer
import Diorama.Text.Quoted

namespace Diorama

inductive Misread where
  | kind (found wanted : String)
  | range (found wanted : String)
  | length (found : Nat) (wanted : String)
  | missing (field : String)
  | name
  deriving DecidableEq

namespace Misread

def message : Misread → String
  | .kind found wanted => s!"invalid type: {found}, expected {wanted}"
  | .range found wanted => s!"invalid value: {found}, expected {wanted}"
  | .length found wanted => s!"invalid length {found}, expected {wanted}"
  | .missing field => s!"missing field `{field}`"
  | .name => "key must be a string"

/-- A name that is not a text would not be a document; all else is one of another shape. -/
def fault : Misread → Fault
  | .name => .malformed
  | _ => .mismatch

end Misread

structure TypedField (α : Type) where
  name : String
  isNeeded : Bool := true
  read : Json → Except Misread α

namespace Json

variable {α : Type}

def described : Json → String
  | .null => "null"
  | .bool b => "boolean `" ++ (if b then "true" else "false") ++ "`"
  | .num (.int n) => "integer `" ++ .ofList n.render ++ "`"
  | .num (.float x) => "floating point `" ++ .ofList x.render ++ "`"
  | .str s => "string " ++ .ofList (quoted s.toList)
  | .arr _ => "sequence"
  | .obj _ => "map"

def isNot (v : Json) (wanted : String) : Except Misread α := .error (.kind v.described wanted)

def readText : Json → Except Misread String
  | .str s => .ok s
  | v => v.isNot "a string"

def readBool : Json → Except Misread Bool
  | .bool b => .ok b
  | v => v.isNot "a boolean"

def readReal : Json → Except Misread Binary64
  | .num n => .ok n.toBinary64
  | v => v.isNot "f64"

def readInteger (type : String) (low high : Int) : Json → Except Misread Int
  | .num (.int n) =>
    if low ≤ n.val ∧ n.val ≤ high then .ok n.val
    else .error (.range (num (.int n)).described type)
  | v => v.isNot type

def readList (read : Json → Except Misread α) : Json → Except Misread (List α)
  | .arr vs => vs.mapM read
  | v => v.isNot "a sequence"

def readOptional (read : Json → Except Misread α) : Json → Except Misread (Option α)
  | .null => .ok none
  | v => (read v).map some

/-- The fields of a record in the order of an array, which may end before fields that are not
needed; `i` of them and of the items have been read. -/
def readListed (type : String) (i : Nat) :
    List (TypedField α) → List Json → Except Misread (List (String × α))
  | [], [] => .ok []
  | [], vs => .error (.length (i + vs.length) "fewer elements in array")
  | f :: fs, [] => if f.isNeeded then .error (.length i type) else readListed type (i + 1) fs []
  | f :: fs, v :: vs => do
    let a ← f.read v
    return (f.name, a) :: (← readListed type (i + 1) fs vs)

/-- The fields of a record that has a type of this name, by name or in the order of an array. Of the
fields by name, each is read before any is missed. -/
def readRecord (type : String) (fields : List (TypedField α)) :
    Json → Except Misread (List (String × α))
  | .obj vs => do
    let read ← (vs.filterMap fun v => (fields.find? (·.name = v.1)).map (·, v.2)).mapM
      fun (f, v) => do return (f.name, ← f.read v)
    match fields.find? fun f => f.isNeeded && (find? f.name read).isNone with
    | some f => .error (.missing f.name)
    | none => return read
  | .arr vs =>
    let elements := if fields.length = 1 then "element" else "elements"
    readListed s!"struct {type} with {fields.length} {elements}" 0 fields vs
  | v => v.isNot s!"struct {type}"

end Json

end Diorama
