import Diorama.Json.Decode

/-!
Checks of values against a schema. A schema knows a number by its value alone: one without
fractional part is an integer however it is written.
-/

namespace Diorama.Schema

def whole? : Json → Option Int
  | .num n => n.whole?
  | _ => none

def isText (v : Json) : Bool := v.string?.isSome

def isBool (v : Json) : Bool := v.bool?.isSome

def isTextOrNull (v : Json) : Bool := (v.optional? Json.string?).isSome

def isWhole (p : Int → Bool) (v : Json) : Bool := (whole? v).any p

def isList (p : Json → Bool) : Json → Bool
  | .arr xs => xs.all p
  | _ => false

def isObject (required : List String) (p : String → Json → Bool) : Json → Bool
  | .obj fs => required.all (fun k => (find? k fs).isSome) && fs.all fun f => p f.1 f.2
  | _ => false

end Diorama.Schema
