import Diorama.Config
import Diorama.Log.Line
import Diorama.Log.Rules

namespace Diorama

structure Environment where
  /-- Rules that take the place of those of the configuration. -/
  rules : Option String := none
  /-- `1` if the libraries are to be heard. -/
  dependencies : Option String := none
  noColor : Option String := none
  terminal : Option String := none
  onTerminal : Bool := false

namespace Environment

def hearsDependencies (e : Environment) : Bool := e.dependencies = some "1"

def wantsAnsi (e : Environment) : Bool :=
  e.onTerminal && e.noColor.isNone && e.terminal ≠ some "dumb"

end Environment

structure LogConfig where
  omitted : String
  /-- Up to the environment if it is none. -/
  ansi : Option Bool := none
  level : Level := .info
  hasFile : Bool := false

def Config.log (c : Config) : LogConfig := { omitted := "scene_runtime::", level := c.level }

structure Logger where
  rules : Rules
  output : Style
  file : Option Style
  deriving DecidableEq

namespace Logger

/-- Rules of the environment that cannot be read do not count. -/
def ofConfig (c : LogConfig) (e : Environment) : Logger where
  rules := (e.rules.bind fun s => Rules.parse s.toList).getD (.standard c.level e.hearsDependencies)
  output := { omitted := some c.omitted, ansi := c.ansi.getD e.wantsAnsi }
  file := if c.hasFile then some { omitted := some c.omitted } else none

/-- Set up the log, which fails if there is one already. -/
def install (c : LogConfig) (e : Environment) : Option Logger → Option Logger
  | none => some (ofConfig c e)
  | some _ => none

def lines (l : Logger) (s : Style) (t : Stamp) (es : List Event) : List String :=
  (es.filter l.rules.allow).map (·.line s t)

end Logger

end Diorama
