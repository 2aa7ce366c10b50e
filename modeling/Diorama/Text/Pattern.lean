import Diorama.Text.Alphanumeric
import Diorama.Text.Blank

/-!
Patterns: the texts that are regular expressions. A pattern matches whole characters only. Of what
surrounds a match it asks no more than for the ends of the text and of its lines, and for the
boundaries of ASCII words. Its parts do not lie too deep in one another. It stands where no closing
brace can, so nothing in braces is part of it.

The functions below read a part of a pattern and give what is left of the text, and how deep the
part is nested. Their fuel is the length of the text, of which each step reads some.
-/

namespace Diorama

namespace Pattern

structure Modes where
  /-- Blanks and comments do not count. -/
  spaced : Bool := false
  /-- Sets and words are made of the characters of all scripts, and else of ASCII only. -/
  unicode : Bool := true

mutual

def skipBlanks : List Char → List Char
  | [] => []
  | '#' :: cs => skipComment cs
  | c :: cs => if isBlank c then skipBlanks cs else c :: cs

def skipComment : List Char → List Char
  | [] => []
  | '\n' :: cs => skipBlanks cs
  | _ :: cs => skipComment cs

end

namespace Modes

def skip (m : Modes) (cs : List Char) : List Char := if m.spaced then skipBlanks cs else cs

/-- The character that comes next when blanks and the sign of a comment do not count, even if what
follows is the text of a comment. -/
def ahead (m : Modes) (cs : List Char) : Option Char :=
  if m.spaced then
    let past := cs.dropWhile isBlank
    let past := if past.head? = some '#' then (past.drop 1).dropWhile isBlank else past
    past.head? <|> cs.head?
  else cs.head?

/-- Whether a flag is set or, behind a hyphen, taken back; none if there is nothing about it. -/
def flag? (f : Char) (flags : List Char) : Option Bool :=
  if flags.contains f then some !((flags.takeWhile (· ≠ f)).contains '-') else none

def change (m : Modes) (flags : List Char) : Modes where
  spaced := (flag? 'x' flags).getD m.spaced
  unicode := (flag? 'u' flags).getD m.unicode

end Modes

inductive Escape where
  | one (c : Char)
  | oneOfMany
  /-- A place in the text and no character of it. -/
  | place

def hexValue? (c : Char) : Option Nat :=
  if c.isDigit then some (c.toNat - 48)
  else if 'a' ≤ c.toLower && c.toLower ≤ 'f' then some (c.toLower.toNat - 87)
  else none

def hexDigits (m : Modes) : Nat → Nat → List Char → Option (Nat × List Char)
  | 0, n, cs => some (n, m.skip cs)
  | k + 1, n, cs =>
    match m.skip cs with
    | c :: cs => (hexValue? c).bind fun d => hexDigits m k (n * 16 + d) cs
    | [] => none

def code (m : Modes) (digits : Nat) (cs : List Char) : Option (Escape × List Char) := do
  let (n, rest) ← hexDigits m digits 0 cs
  if n.isValidChar then return (.one (.ofNat n), rest) else none

/-- The escape behind a backslash. Punctuation stands for itself. A code of two digits is a byte if
characters are not those of all scripts, and a byte beyond ASCII is only part of a character. -/
def escape (m : Modes) : List Char → Option (Escape × List Char)
  | [] => none
  | e :: cs =>
    if e = 'x' then do
      let (c, rest) ← code m 2 cs
      match c with
      | .one c => if m.unicode || c.toNat < 128 then return (.one c, rest) else none
      | c => return (c, rest)
    else if e = 'u' then code m 4 cs
    else if e = 'U' then code m 8 cs
    else if e = 'p' || e = 'P' then
      match m.skip cs with
      | c :: rest =>
        if m.unicode && "CLMNPSZ".toList.contains c.toUpper then some (.oneOfMany, m.skip rest)
        else none
      | [] => none
    else if "dsw".toList.contains e then some (.oneOfMany, cs)
    else if "DSW".toList.contains e then if m.unicode then some (.oneOfMany, cs) else none
    else if "Az".toList.contains e then some (.place, cs)
    else if "bB<>".toList.contains e then if m.unicode then none else some (.place, cs)
    else
      let one := fun c => some (.one c, cs)
      match e with
      | 'a' => one '\x07'
      | 'f' => one '\x0c'
      | 'n' => one '\n'
      | 'r' => one '\r'
      | 't' => one '\t'
      | 'v' => one '\x0b'
      | c => if c.toNat < 128 && !c.isAlphanum then one c else none

def abreast : List Nat → Nat
  | [] => 0
  | [d] => d
  | ds => ds.foldl max 0 + 1

/-- A member of a set, which is one character or, for none, one of many. -/
def member (m : Modes) : List Char → Option (Option Char × List Char)
  | [] => none
  | c :: cs => do
    let (e, rest) ← if c = '\\' then escape m cs else some (.one c, cs)
    match e with
    | .one c => if m.unicode || c.toNat < 128 then return (some c, rest) else none
    | .oneOfMany => return (none, rest)
    | .place => none

def range (m : Modes) (cs : List Char) : Option (List Char) := do
  let (low, rest) ← member m cs
  match m.skip rest with
  | '-' :: high =>
    if m.ahead high = some ']' || m.ahead high = some '-' then return '-' :: high
    else
      let (high, rest) ← member m (m.skip high)
      match low, high with
      | some low, some high => if low ≤ high then return rest else none
      | _, _ => none
  | rest => return rest

def namedSet? : List Char → Option (Bool × List Char)
  | ':' :: cs =>
    let isNegated := cs.head? = some '^'
    let cs := if isNegated then cs.drop 1 else cs
    let name := cs.takeWhile (· ≠ ':')
    match cs.drop name.length with
    | ':' :: ']' :: rest =>
      if ["alnum", "alpha", "ascii", "blank", "cntrl", "digit", "graph", "lower", "print", "punct",
          "space", "upper", "word", "xdigit"].contains (String.ofList name) then
        some (isNegated, rest)
      else none
    | _ => none
  | _ => none

/-- The depth of a set that ends here, behind the last operator if there is one. -/
def operated (left : Option Nat) (items : List Nat) : Nat :=
  match left with
  | none => abreast items
  | some d => max d (abreast items) + 1

mutual

def bracketed : Nat → Modes → List Char → Option (Nat × List Char)
  | 0, _, _ => none
  | fuel + 1, m, cs =>
    let cs := m.skip cs
    if cs.head? = some '^' then
      if m.unicode then (members fuel m true none [] (cs.drop 1)).map fun (d, rest) => (d + 1, rest)
      else none
    else (members fuel m true none [] cs).map fun (d, rest) => (d + 1, rest)

/-- The members of a set. As long as it is at its start, hyphens are members, and so is a closing
bracket that comes first. -/
def members : Nat → Modes → Bool → Option Nat → List Nat → List Char → Option (Nat × List Char)
  | 0, _, _, _, _, _ => none
  | fuel + 1, m, atStart, left, items, cs =>
    let cs := m.skip cs
    if atStart && cs.head? = some '-' then members fuel m true left (0 :: items) (cs.drop 1)
    else if atStart && items.isEmpty && cs.head? = some ']' then
      members fuel m false left [0] (cs.drop 1)
    else
      match cs with
      | [] => none
      | ']' :: rest => some (operated left items, rest)
      | '&' :: '&' :: rest | '-' :: '-' :: rest | '~' :: '~' :: rest =>
        members fuel m false (some (operated left items)) [] rest
      | '[' :: rest =>
        match namedSet? rest with
        | some (isNegated, rest) =>
          if isNegated && !m.unicode then none else members fuel m false left (0 :: items) rest
        | none => do
          let (d, rest) ← bracketed fuel m rest
          members fuel m false left (d :: items) rest
      | cs => do members fuel m false left (0 :: items) (← range m cs)

end

inductive Head where
  | group (name : Option (List Char)) (inner : Modes)
  /-- No group, but flags for what is left of the group around it. -/
  | flags (m : Modes)

def groupName (cs : List Char) : Option (List Char × List Char) :=
  let name := cs.takeWhile (· ≠ '>')
  match name, cs.drop name.length with
  | c :: cs, _ :: rest =>
    let goesOn := fun c => "_.[]".toList.contains c || isAlphanumeric c
    if (c = '_' || isAlphabetic c) && cs.all goesOn then some (name, rest) else none
  | _, _ => none

def head (m : Modes) (cs : List Char) : Option (Head × List Char) :=
  match m.skip cs with
  | '?' :: 'P' :: '<' :: rest | '?' :: '<' :: rest =>
    (groupName rest).map fun (name, rest) => (.group name m, rest)
  | '?' :: rest =>
    let flags := rest.takeWhile "imsUuRx-".toList.contains
    if !decide flags.Nodup || flags.getLast? = some '-' then none
    else
      match rest.drop flags.length with
      | ':' :: rest => some (.group none (m.change flags), rest)
      | ')' :: rest => if flags.isEmpty then none else some (.flags (m.change flags), rest)
      | _ => none
  | rest => some (.group none m, rest)

structure Part where
  depth : Nat := 0
  isRepeatable : Bool := true

/-- The parts of a group up to its closing parenthesis or the end of the text, behind some branches
and, in reverse, the first parts of another. The names of groups are kept, as each may be given
once. -/
def parts : Nat → Modes → List (List Char) → List Nat → List Part → List Char →
    Option (Nat × List (List Char) × List Char)
  | 0, _, _, _, _, _ => none
  | fuel + 1, m, names, branches, ps, cs =>
    let cs := m.skip cs
    let branch := abreast (ps.map (·.depth))
    let add := fun p rest => parts fuel m names branches (p :: ps) rest
    match cs with
    | [] | ')' :: _ => some (abreast (branch :: branches), names, cs)
    | '|' :: rest => parts fuel m names (branch :: branches) [] rest
    | '(' :: rest =>
      match head m rest with
      | none => none
      | some (.flags m, rest) => parts fuel m names branches (⟨0, false⟩ :: ps) rest
      | some (.group name inner, rest) =>
        if name.any names.contains then none
        else
          match parts fuel inner (name.toList ++ names) [] [] rest with
          | some (d, names, ')' :: rest) => parts fuel m names branches (⟨d + 1, true⟩ :: ps) rest
          | _ => none
    | '?' :: rest | '*' :: rest | '+' :: rest =>
      match ps with
      | ⟨d, true⟩ :: ps =>
        let rest := if rest.head? = some '?' then rest.drop 1 else rest
        parts fuel m names branches (⟨d + 1, true⟩ :: ps) rest
      | _ => none
    | '\x7b' :: _ => none
    | '[' :: rest => (bracketed fuel m rest).bind fun (d, rest) => add ⟨d, true⟩ rest
    | '\\' :: rest => (escape m rest).bind fun (_, rest) => add {} rest
    | '.' :: rest => if m.unicode then add {} rest else none
    | _ :: rest => add {} rest

end Pattern

def isPattern (s : List Char) : Bool :=
  match Pattern.parts (s.length + 1) {} [] [] [] s with
  | some (depth, _, []) => depth ≤ 250
  | _ => false

end Diorama
