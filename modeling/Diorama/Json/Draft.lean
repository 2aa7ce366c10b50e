import Diorama.Json.Basic

/-!
Drafts: what a text says before anyone asks it for values. A text is read once into a draft, which
keeps each fault at the place where it stands, also in a text that breaks off. A reader of values
then walks the draft in the order of the text and reports the first fault it meets, which may be
that the text says something else than was wanted. A part that nobody asks for is skipped, and
skipping forgives numbers without a finite value, escapes of half a surrogate pair and any depth.
-/

namespace Diorama

inductive Fault where
  | malformed
  | truncated
  /-- It is a document, but not of the shape that was wanted. -/
  | mismatch
  deriving DecidableEq, Repr

theorem bind_ok {ε α β : Type} {x : Except ε α} {f : α → Except ε β} {b : β} :
    x >>= f = .ok b ↔ ∃ a, x = .ok a ∧ f a = .ok b := by
  cases x with
  | error e => exact ⟨nofun, fun ⟨a, h, _⟩ => nomatch h⟩
  | ok a => exact ⟨fun h => ⟨a, rfl, h⟩, fun ⟨_, rfl, h⟩ => h⟩

inductive Draft where
  | null
  | bool (b : Bool)
  /-- A number; none if it is too large for 64 bits. -/
  | num (n : Option Number)
  | str (s : Except Fault String)
  /-- The fault stands after the last item. -/
  | arr (items : List Draft) (stop : Option Fault)
  /-- The fault stands after the last field. -/
  | obj (fields : List (Except Fault String × Draft)) (stop : Option Fault)
  /-- What is found here by reading, and what by skipping. -/
  | broken (read skip : Fault)
  deriving Inhabited

namespace Draft

def reach : Option Fault → Except Fault Unit
  | none => .ok ()
  | some f => .error f

mutual

/-- The value, with room for so many arrays and objects one in another. -/
def value : Draft → Nat → Except Fault Json
  | .null, _ => .ok .null
  | .bool b, _ => .ok (.bool b)
  | .num (some n), _ => .ok (.num n)
  | .num none, _ => .error .malformed
  | .str s, _ => s.map .str
  | .arr _ _, 0 => .error .malformed
  | .arr xs stop, room + 1 => do
    let vs ← items xs room
    reach stop
    return .arr vs
  | .obj _ _, 0 => .error .malformed
  | .obj fs stop, room + 1 => do
    let vs ← fields fs room
    reach stop
    return .ofFields vs
  | .broken f _, _ => .error f

def items : List Draft → Nat → Except Fault (List Json)
  | [], _ => .ok []
  | d :: ds, room => do return (← value d room) :: (← items ds room)

def fields : List (Except Fault String × Draft) → Nat → Except Fault (List (String × Json))
  | [], _ => .ok []
  | (k, d) :: fs, room => do
    let k ← k
    let v ← value d room
    return (k, v) :: (← fields fs room)

end

mutual

def skip : Draft → Except Fault Unit
  | .arr xs stop => do skipItems xs; reach stop
  | .obj fs stop => do skipFields fs; reach stop
  | .broken _ f => .error f
  | _ => .ok ()

def skipItems : List Draft → Except Fault Unit
  | [] => .ok ()
  | d :: ds => do skip d; skipItems ds

def skipFields : List (Except Fault String × Draft) → Except Fault Unit
  | [] => .ok ()
  | (_, d) :: fs => do skip d; skipFields fs

end

/-- The fault of a part that is not of the wanted kind. A scalar is read to its end before it is
refused, an array or object is not. -/
def refuse : Draft → Fault
  | .num none => .malformed
  | .str (.error f) => f
  | .broken f _ => f
  | _ => .mismatch

end Draft

mutual

def Json.draft : Json → Draft
  | .null => .null
  | .bool b => .bool b
  | .num n => .num (some n)
  | .str s => .str (.ok s)
  | .arr xs => .arr (draftItems xs) none
  | .obj fs => .obj (draftFields fs) none

def Json.draftItems : List Json → List Draft
  | [] => []
  | x :: xs => x.draft :: draftItems xs

def Json.draftFields : List (String × Json) → List (Except Fault String × Draft)
  | [] => []
  | (k, x) :: fs => (.ok k, x.draft) :: draftFields fs

end

end Diorama
