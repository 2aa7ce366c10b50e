import Diorama.Log.Level
import Diorama.Text.Alphanumeric
import Diorama.Text.Blank
import Diorama.Text.Cut
import Diorama.Text.Digits
import Diorama.Text.Pattern

/-!
Directives: what someone asks to hear in the log. A directive is a level, or the name of a part of
the program, then in brackets a span and in braces a field of what is said, then the level. All but
one of these may be left out.

The marks between the pieces are looked for in the text without the blanks at its ends, but the
pieces are cut out of the whole text at the same places, counted in bytes.
-/

namespace Diorama

structure Directive where
  target : Option String := none
  /-- What is going on while something is said. -/
  span : Option String := none
  field : Option String := none
  hasValue : Bool := false
  /-- What matters less is left out; with none, all is. -/
  least : Option Level := some .trace
  deriving DecidableEq

namespace Directive

def level? (s : List Char) : Option (Option Level) :=
  match natural s with
  | .ok 0 => some none
  | .ok 1 => some (some .error)
  | .ok 2 => some (some .warn)
  | .ok 3 => some (some .info)
  | .ok 4 => some (some .debug)
  | .ok 5 => some (some .trace)
  | _ =>
    let name := String.ofList (s.map Char.toLower)
    if name = "off" then some none else (Level.named? name).map some

def isDecimal (s : List Char) : Bool :=
  let whole := s.takeWhile Char.isDigit
  let rest := s.drop whole.length
  let part := if rest.head? = some '.' then (rest.drop 1).takeWhile Char.isDigit else []
  let rest := if rest.head? = some '.' then rest.drop (part.length + 1) else rest
  !(whole ++ part).isEmpty &&
    match rest with
    | [] => true
    | e :: rest =>
      let digits := if rest.head? = some '+' || rest.head? = some '-' then rest.drop 1 else rest
      e.toLower = 'e' && !digits.isEmpty && digits.all Char.isDigit

/-- The value of a field is a number or a pattern. A number is a pattern unless it has a plus sign.
-/
def isValue : List Char → Bool
  | '+' :: s => isDecimal s || ["inf", "infinity", "nan"].contains (.ofList (s.map Char.toLower))
  | s => isPattern s

def isNameStart (c : Char) : Bool := isAlphanumeric c || c = '-' || c = ':' || c = '_'

def piece (s : List Char) (start stop : Nat) : List Char :=
  takeBytes (stop - start) (dropBytes start s)

/-- Read a field with its value, of which only what stands before a second equals sign counts. -/
def withField (d : Directive) (s : List Char) : Option Directive :=
  let name := s.takeWhile (· ≠ '=')
  let value := (s.drop (name.length + 1)).takeWhile (· ≠ '=')
  let d := { d with field := some (.ofList name), hasValue := name.length < s.length }
  if s.isEmpty || !isValue value then none else some d

def withLevel (s : List Char) (d : Directive) (start : Nat) : Option Directive :=
  match dropBytes start s with
  | [] => some d
  | level => (level? level).map fun least => { d with least }

def behindSpan (s : List Char) (d : Directive) (start : Nat) : List Char → Option Directive
  | [] => some d
  | '=' :: _ => withLevel s d (start + 1)
  | _ => none

def inSpan (s : List Char) (d : Directive) (start : Nat) (cs : List Char) : Option Directive :=
  let name := cs.takeWhile fun c => c ≠ ']' && c ≠ '\x7b'
  let stop := start + byteCount name
  let named := { d with span := some (String.ofList (piece s start stop)) }
  match cs.drop name.length with
  | ']' :: cs => behindSpan s named (stop + 1) cs
  | '\x7b' :: cs =>
    let field := cs.takeWhile (· ≠ '\x7d')
    let fieldStop := stop + 1 + byteCount field
    match cs.drop field.length with
    | '\x7d' :: ']' :: cs => do
      let d ← withField (if name.isEmpty then d else named) (piece s (stop + 1) fieldStop)
      behindSpan s d (fieldStop + 2) cs
    | _ => none
  | _ => none

/-- A text that is neither a level nor has any mark is the name of a part. -/
def parse (s : List Char) : Option Directive :=
  match trim s with
  | [] => none
  | '[' :: cs => inSpan s {} 1 cs
  | c :: cs =>
    let name := (c :: cs).takeWhile fun c => c ≠ '=' && c ≠ '['
    let stop := byteCount name
    let named := { target := some (String.ofList (piece s 0 stop)) }
    if !isNameStart c then none
    else
      match (c :: cs).drop name.length with
      | [] =>
        match level? s with
        | some least => some { least }
        | none => some { target := some (.ofList s) }
      | '=' :: _ => withLevel s named (stop + 1)
      | _ :: cs => inSpan s named (stop + 1) cs

end Directive

end Diorama
