import Diorama.Log.Directive
import Diorama.Log.Event

/-!
Rules for what gets into the log. A rule is for a part of the program, with all that is in it, or
for every part, and it may be for what has a certain field only; the narrowest rule decides.
-/

namespace Diorama

structure Rule where
  /-- The beginning of the name of a part; none for every part. -/
  target : Option String := none
  /-- The name of a field; none for what has any fields or none. -/
  field : Option String := none
  least : Option Level
  deriving DecidableEq

namespace Rule

def covers (r : Rule) (e : Event) : Bool :=
  (r.target.all fun t => t.toList.isPrefixOf e.target.toList) && r.field.all e.fieldNames.contains

/-- The longer the name of the part, the narrower the rule. -/
def narrowness (r : Rule) : Nat :=
  match r.target with
  | some t => t.utf8ByteSize + 1
  | none => 0

/-- Whether a rule decides before another that covers the same event. For one part, a rule for a
field is the narrower, and of two fields the one that is later in the order of names. -/
def precedes (r s : Rule) : Bool :=
  s.narrowness < r.narrowness ||
    (s.narrowness = r.narrowness &&
      match s.field, r.field with
      | none, _ => true
      | some _, none => false
      | some f, some g => !decide (g < f))

def allows (r : Rule) (e : Event) : Bool := r.least.any fun l => l.rank ≤ e.level.rank

def text (r : Rule) : String :=
  let field := (r.field.map fun f => "[\x7b" ++ f ++ "\x7d]").getD ""
  let least := (r.least.map Level.name).getD "off"
  match r.target, r.field with
  | none, none => least
  | target, _ => target.getD "" ++ field ++ "=" ++ least

end Rule

/-- The rule that a directive makes. Nothing is ever said inside of a span, and the value of a field
is looked at in spans only, so directives with these make none. -/
def Directive.rule? (d : Directive) : Option Rule :=
  if d.span.isSome || d.hasValue then none
  else some { target := d.target, field := d.field, least := d.least }

abbrev Rules := List Rule

namespace Rules

def ownParts : List String := ["scene_runtime", "scene_protocol", "scene_schema", "scene_log"]

def standard (level : Level) (everything : Bool) : Rules :=
  if everything then [{ least := some level }]
  else { least := none } :: ownParts.map fun p => { target := some p, least := some level }

def text (rs : Rules) : String := ",".intercalate (rs.map Rule.text)

/-- The narrowest rule for an event, and of several the last. -/
def decisive? (rs : Rules) (e : Event) : Option Rule :=
  rs.foldl (fun best r => if r.covers e && best.all r.precedes then some r else best) none

def allow (rs : Rules) (e : Event) : Bool := (rs.decisive? e).any (·.allows e)

def pieces : List Char → List (List Char)
  | [] => [[]]
  | ',' :: cs => [] :: pieces cs
  | c :: cs =>
    match pieces cs with
    | p :: ps => (c :: p) :: ps
    | [] => [[c]]

/-- The rules of the directives between commas, each of which must be one. Where there are no rules,
nothing is heard. -/
def parse (s : List Char) : Option Rules := do
  let ds ← ((pieces s).filter (!·.isEmpty)).mapM Directive.parse
  return ds.filterMap Directive.rule?

end Rules

end Diorama
