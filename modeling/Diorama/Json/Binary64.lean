/-!
Binary floating point numbers of 64 bits, kept as their bits. A finite number is
`± significand * 2 ^ power`, and every test below is made on those integers.
-/

namespace Diorama

structure Binary64 where
  bits : UInt64
  deriving DecidableEq, Inhabited

namespace Binary64

def ofFloat (x : Float) : Binary64 := ⟨x.toBits⟩

def toFloat (x : Binary64) : Float := Float.ofBits x.bits

def negative (x : Binary64) : Bool := 0x8000_0000_0000_0000 ≤ x.bits.toNat

def exponent (x : Binary64) : Nat := x.bits.toNat / 0x10_0000_0000_0000 % 2048

def fraction (x : Binary64) : Nat := x.bits.toNat % 0x10_0000_0000_0000

def isFinite (x : Binary64) : Bool := x.exponent < 2047

def significand (x : Binary64) : Nat :=
  if x.exponent = 0 then x.fraction else 0x10_0000_0000_0000 + x.fraction

def power (x : Binary64) : Int :=
  if x.exponent = 0 then -1074 else x.exponent - 1075

def isZero (x : Binary64) : Bool := x.bits.toNat % 0x8000_0000_0000_0000 = 0

/-- Equality of numbers: both zeros are one number, any other number is only itself. -/
def same (x y : Binary64) : Bool := x == y || (x.isZero && y.isZero)

theorem same_refl (x : Binary64) : same x x = true := by simp [same]

theorem same_comm (x y : Binary64) : same x y = same y x := by
  simp only [same, Bool.and_comm, Bool.beq_comm (a := x)]

theorem same_trans {x y z : Binary64} (h : same x y = true) (h' : same y z = true) :
    same x z = true := by
  simp only [same, Bool.or_eq_true, beq_iff_eq, Bool.and_eq_true] at *
  rcases h with rfl | ⟨hx, hy⟩
  · exact h'
  · rcases h' with rfl | ⟨_, hz⟩
    · exact .inr ⟨hx, hy⟩
    · exact .inr ⟨hx, hz⟩

def toInt? (x : Binary64) : Option Int :=
  let scale := Nat.pow 2 x.power.natAbs
  let signed (n : Nat) : Int := if x.negative then -n else n
  if !x.isFinite then none
  else if 0 ≤ x.power then some (signed (x.significand * scale))
  else if x.significand % scale = 0 then some (signed (x.significand / scale))
  else none

def ofInt (n : Int) : Binary64 :=
  ofFloat (if n < 0 then -(Float.ofNat n.natAbs) else Float.ofNat n.natAbs)

def add (x y : Binary64) : Binary64 := ofFloat (x.toFloat + y.toFloat)

end Binary64

end Diorama
