import Diorama.Text.Blank

namespace Diorama

inductive Level where
  | trace
  | debug
  | info
  | warn
  | error
  deriving DecidableEq, Repr, Inhabited

namespace Level

def rank : Level → Nat
  | .trace => 0
  | .debug => 1
  | .info => 2
  | .warn => 3
  | .error => 4

def name : Level → String
  | .trace => "trace"
  | .debug => "debug"
  | .info => "info"
  | .warn => "warn"
  | .error => "error"

def capitals : Level → String
  | .trace => "TRACE"
  | .debug => "DEBUG"
  | .info => "INFO"
  | .warn => "WARN"
  | .error => "ERROR"

def all : List Level := [.trace, .debug, .info, .warn, .error]

def named? (s : String) : Option Level := all.find? fun l => l.name = s

/-- The level of a name in letters of either case, with blanks around it. -/
def parse (s : String) : Option Level :=
  named? (.ofList ((trim s.toList).map Char.toLower))

end Level

end Diorama
