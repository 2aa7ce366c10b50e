import Diorama.Json.Basic
import Diorama.Json.Shortest

/-!
Values as compact text. Binary numbers are written with the fewest digits that read back, in
positional notation from `0.00001` up to below `1e+16` and with an exponent outside.
-/

namespace Diorama

namespace Decimal

/-- The digits with the point after the first `point` of them; an exponent where that needs too many
zeros. -/
def render (d : Decimal) : List Char :=
  let ds := Nat.toDigits 10 d.digits
  let point : Int := ds.length + d.power
  if 0 ≤ d.power ∧ point ≤ 16 then ds ++ List.replicate d.power.toNat '0' ++ ['.', '0']
  else if 0 < point ∧ point ≤ 16 then ds.take point.toNat ++ '.' :: ds.drop point.toNat
  else if -5 < point ∧ point ≤ 0 then '0' :: '.' :: List.replicate (-point).toNat '0' ++ ds
  else
    let tail := if ds.length = 1 then [] else '.' :: ds.drop 1
    let sign := if 0 < point then '+' else '-'
    ds.take 1 ++ tail ++ 'e' :: sign :: Nat.toDigits 10 (point - 1).natAbs

end Decimal

namespace Binary64

def render (x : Binary64) : List Char :=
  let body := if x.isZero then ['0', '.', '0'] else (Decimal.shortest x).render
  if x.negative then '-' :: body else body

end Binary64

def Integer.render (n : Integer) : List Char :=
  let ds := Nat.toDigits 10 n.val.natAbs
  if n.val < 0 then '-' :: ds else ds

def Number.render : Number → List Char
  | .int n => n.render
  | .float x => x.render

namespace Json

def escape (c : Char) : List Char :=
  match c with
  | '"' => ['\\', '"']
  | '\\' => ['\\', '\\']
  | '\n' => ['\\', 'n']
  | '\r' => ['\\', 'r']
  | '\t' => ['\\', 't']
  | '\x08' => ['\\', 'b']
  | '\x0c' => ['\\', 'f']
  | c =>
    if c.toNat < 0x20 then
      '\\' :: 'u' :: '0' :: '0' :: Nat.digitChar (c.toNat / 16) :: [Nat.digitChar (c.toNat % 16)]
    else [c]

def quote (s : String) : List Char := '"' :: s.toList.flatMap escape ++ ['"']

def separate : List (List Char) → List Char
  | [] => []
  | [t] => t
  | t :: ts => t ++ ',' :: separate ts

def bracket (items : List (List Char)) : List Char := '[' :: separate items ++ [']']

def brace (fields : List (String × List Char)) : List Char :=
  '\x7b' :: separate (fields.map fun f => quote f.1 ++ ':' :: f.2) ++ ['\x7d']

def quoteAll (ss : List String) : List Char := bracket (ss.map quote)

def quoteOrNull : Option String → List Char
  | some s => quote s
  | none => ['n', 'u', 'l', 'l']

mutual

def render : Json → List Char
  | .null => ['n', 'u', 'l', 'l']
  | .bool true => ['t', 'r', 'u', 'e']
  | .bool false => ['f', 'a', 'l', 's', 'e']
  | .num n => n.render
  | .str s => quote s
  | .arr xs => bracket (renderItems xs)
  | .obj fs => brace (renderFields fs)

def renderItems : List Json → List (List Char)
  | [] => []
  | x :: xs => render x :: renderItems xs

def renderFields : List (String × Json) → List (String × List Char)
  | [] => []
  | (k, x) :: fs => (k, render x) :: renderFields fs

end

def text (v : Json) : String := .ofList v.render

end Json

end Diorama
