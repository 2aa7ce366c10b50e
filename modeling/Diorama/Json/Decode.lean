import Diorama.Json.Draft

/-!
Readers of typed values. A record is an object of its fields or an array of them in order, and in
either form the fields are read as they come. A variant carries its tag in one of its fields: the
tag is read as soon as it is met, and the other fields are kept as values until the whole variant
has been seen.
-/

namespace Diorama

namespace Json

def string? : Json → Option String
  | .str s => some s
  | _ => none

def nat? : Json → Option Nat
  | .num n => n.toNat?
  | _ => none

def bool? : Json → Option Bool
  | .bool b => some b
  | _ => none

def optional? {α : Type} (f : Json → Option α) : Json → Option (Option α)
  | .null => some none
  | v => (f v).map some

def list? {α : Type} (f : Json → Option α) : Json → Option (List α)
  | .arr xs => xs.mapM f
  | _ => none

end Json

inductive Parts where
  | named (fields : List (String × Json))
  | listed (items : List Json)

namespace Parts

/-- The known fields with their names. A known name may not occur twice, and there may not be more
items than names. -/
def pick? (names : List String) : Parts → Option (List (String × Json))
  | .named fs =>
    let known := fs.filter fun f => names.contains f.1
    if (known.map (·.1)).Nodup then some known else none
  | .listed vs => if vs.length ≤ names.length then some (names.zip vs) else none

end Parts

namespace Json

def parts? : Json → Option Parts
  | .obj fs => some (.named fs)
  | .arr vs => some (.listed vs)
  | _ => none

/-- The tag of a variant and its other parts. -/
def tagged? (tag : String) : Json → Option (String × Parts)
  | .obj fs =>
    match find? tag fs with
    | some (.str s) => some (s, .named (drop tag fs))
    | _ => none
  | .arr (.str s :: vs) => some (s, .listed vs)
  | _ => none

end Json

namespace Draft

variable {α σ : Type}

def expect (d : Draft) : Option α → Except Fault α
  | some a => .ok a
  | none => .error d.refuse

def text (d : Draft) : Except Fault String :=
  match d with
  | .str s => s
  | d => .error d.refuse

def nat (d : Draft) : Except Fault Nat :=
  match d with
  | .num (some n) => d.expect n.toNat?
  | d => .error d.refuse

def optional (f : Draft → Except Fault α) : Draft → Except Fault (Option α)
  | .null => .ok none
  | d => (f d).map some

def list (f : Draft → Except Fault α) : Draft → Except Fault (List α)
  | .arr ds stop => do
    let xs ← ds.mapM f
    reach stop
    return xs
  | d => .error d.refuse

/-- Fold the fields of a record with these names, in object or array form. -/
def record (names : List String) (step : σ → String → Draft → Except Fault σ) (start : σ) :
    Draft → Except Fault σ
  | .obj fs stop => do
    let s ← fs.foldlM (fun s f => do step s (← f.1) f.2) start
    reach stop
    return s
  | .arr ds stop => do
    let s ← (names.zip ds).foldlM (fun s f => step s f.1 f.2) start
    if names.length < ds.length then .error .malformed
    reach stop
    return s
  | d => .error d.refuse

def once (seen : Option α) (read : Draft → Except Fault α) (d : Draft) : Except Fault (Option α) :=
  match seen with
  | some _ => .error .mismatch
  | none => (read d).map some

def required : Option α → Except Fault α
  | some a => .ok a
  | none => .error .mismatch

def tagText (known : String → Bool) (d : Draft) : Except Fault String := do
  let s ← d.text
  if known s then return s else .error .mismatch

def tagged (tag : String) (known : String → Bool) (room : Nat) :
    Draft → Except Fault (String × Parts)
  | .obj fs stop => do
    let (t, vs) ← fs.foldlM (fun (t, vs) f => do
        let k ← f.1
        if k = tag then return (← once t (tagText known) f.2, vs)
        else return (t, vs ++ [(k, ← f.2.value room)])) ((none, []) : Option String × _)
    reach stop
    return (← required t, .named vs)
  | .arr [] stop => do
    reach stop
    .error .mismatch
  | .arr (d :: ds) stop => do
    let t ← tagText known d
    let vs ← items ds room
    reach stop
    return (t, .listed vs)
  | d => .error d.refuse

end Draft

end Diorama
