import Diorama.Json.Binary64

/-!
The decimal with the fewest digits among those that read back as a given binary number, and of
several with that many digits the one nearest to it. The numbers that read back as `x` form an
interval around it; its ends belong to it when the significand of `x` is even.
-/

namespace Diorama

structure Decimal where
  digits : Nat
  power : Int
  deriving DecidableEq

namespace Decimal

def trim : Nat → Decimal → Decimal
  | 0, d => d
  | fuel + 1, d => if d.digits % 10 = 0 then trim fuel ⟨d.digits / 10, d.power + 1⟩ else d

end Decimal

namespace Shortest

/-- A positive number with the interval of those that round to it, all over one denominator. -/
structure Span where
  low : Nat
  value : Nat
  high : Nat
  den : Nat
  closed : Bool

/-- The neighbours of a number lie one unit of its last place away, except that below a power of two
they are twice as dense. -/
def span (x : Binary64) : Span :=
  let up := Nat.pow 2 x.power.toNat
  let below := if x.fraction = 0 ∧ 1 < x.exponent then 1 else 2
  { low := (4 * x.significand - below) * up
    value := 4 * x.significand * up
    high := (4 * x.significand + 2) * up
    den := 4 * Nat.pow 2 (-x.power).toNat
    closed := x.significand % 2 = 0 }

def Span.holds (s : Span) (n unit scale : Nat) : Bool :=
  let v := n * unit * s.den
  if s.closed then s.low * scale ≤ v ∧ v ≤ s.high * scale
  else s.low * scale < v ∧ v < s.high * scale

/-- The decimal in the interval on the grid of multiples of `10 ^ power`, the nearer of the two
around the value; the even one in a tie. -/
def Span.onGrid (s : Span) (power : Int) : Option Decimal :=
  let unit := Nat.pow 10 power.toNat
  let scale := Nat.pow 10 (-power).toNat
  let below := s.value * scale / (unit * s.den)
  let rest := s.value * scale % (unit * s.den)
  let upper : Bool := unit * s.den < 2 * rest ∨ (unit * s.den = 2 * rest ∧ below % 2 = 1)
  match s.holds below unit scale, s.holds (below + 1) unit scale with
  | true, true => some ⟨if upper then below + 1 else below, power⟩
  | true, false => some ⟨below, power⟩
  | false, true => some ⟨below + 1, power⟩
  | false, false => none

/-- The grids of `n` digits and fewer places are tried from the coarsest on. -/
def Span.search (s : Span) (top : Int) : Nat → Nat → Decimal
  | 0, used => ⟨s.value / s.den, used⟩
  | left + 1, used =>
    match s.onGrid (top - used) with
    | some d => d
    | none => s.search top left (used + 1)

def leading (num den : Nat) : Int :=
  if den ≤ num then (Nat.toDigits 10 (num / den)).length - 1
  else
    let k := (Nat.toDigits 10 (den / num)).length - 1
    if num * Nat.pow 10 k < den then -(k + 1) else -k

end Shortest

/-- The shortest decimal that reads back as a positive number. Seventeen digits always suffice. -/
def Decimal.shortest (x : Binary64) : Decimal :=
  let s := Shortest.span x
  (s.search (Shortest.leading s.value s.den) 17 0).trim 20

end Diorama
