import Diorama.Log.Event
import Diorama.Text.Quoted

namespace Diorama

structure Style where
  /-- Left out where the name of a part of the program begins with it. -/
  omitted : Option String := none
  /-- Whether the parts of a line are told apart by the codes of a terminal. -/
  ansi : Bool := false
  deriving DecidableEq

structure Stamp where
  time : String
  thread : Nat

namespace Style

def paint (s : Style) (code text : String) : String :=
  if s.ansi then "\x1b[" ++ code ++ "m" ++ text ++ "\x1b[0m" else text

def dim (s : Style) (text : String) : String := s.paint "2" text

def trimColons : List Char → List Char
  | ':' :: ':' :: cs => trimColons cs
  | cs => cs

/-- The name of a part of the program as it is shown, which is empty for what is left out
altogether. -/
def shown (s : Style) (target : String) : String :=
  match s.omitted with
  | none => target
  | some o =>
    let whole := (trimColons o.toList.reverse).reverse
    if target.toList = whole then ""
    else if o.toList.isPrefixOf target.toList then .ofList (target.toList.drop o.length)
    else target

end Style

def Level.color : Level → String
  | .trace => "35"
  | .debug => "34"
  | .info => "32"
  | .warn => "33"
  | .error => "31"

def Level.column (l : Level) : String :=
  let name := l.capitals
  .ofList (List.replicate (5 - name.length) ' ') ++ name

def threeDigits (n : Nat) : String :=
  let ds := toString n
  .ofList (List.replicate (3 - ds.length) '0') ++ ds

/-- Controls that a terminal would obey are written as their codes. -/
def disarm (c : Char) : List Char :=
  match c with
  | '\x1b' => ['\\', 'x', '1', 'b']
  | '\x07' => ['\\', 'x', '0', '7']
  | '\x08' => ['\\', 'x', '0', '8']
  | '\x0c' => ['\\', 'x', '0', 'c']
  | '\x7f' => ['\\', 'x', '7', 'f']
  | c => if 0x80 ≤ c.toNat ∧ c.toNat ≤ 0x9f then charCode c else [c]

namespace FieldValue

def named : FieldValue → String
  | .quoted s => .ofList (Diorama.quoted s.toList)
  | .plain s => s

def bare : FieldValue → String
  | .quoted s => s
  | .plain s => .ofList (unquoted s.toList)

end FieldValue

namespace Event

def speaker? (e : Event) : Option (String × String) := do
  let (_, scene) ← e.fields.find? (·.1 = "scene_id")
  let (_, part) ← e.fields.find? (·.1 = "system")
  return (scene.bare, part.bare)

def body (s : Style) (e : Event) : String :=
  let message := e.message.map fun m => String.ofList (m.toList.flatMap disarm)
  let fields := e.fields.map fun f => s.paint "3" f.1 ++ s.dim "=" ++ f.2.named
  " ".intercalate (message.toList ++ fields)

def line (s : Style) (t : Stamp) (e : Event) : String :=
  s.dim t.time ++ " " ++ s.paint e.level.color e.level.column ++ " #" ++ threeDigits t.thread
    ++ " " ++
    match e.speaker? with
    | some (scene, part) =>
      let message := (e.message.map fun m => (FieldValue.plain m).bare).getD ""
      s.dim (scene ++ "::" ++ part) ++ ": " ++ message
    | none =>
      let target := s.shown e.target
      (if target = "" then "" else s.dim target ++ ": ") ++ e.body s

end Event

end Diorama
