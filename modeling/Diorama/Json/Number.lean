import Diorama.Json.Binary64

/-!
The numbers a document holds. A whole number keeps its kind: the literal `1` is an integer and `1.0`
a binary number, and the two are different numbers.
-/

namespace Diorama

structure Integer where
  val : Int
  low : -0x8000_0000_0000_0000 ≤ val
  high : val < 0x1_0000_0000_0000_0000
  deriving DecidableEq

namespace Integer

def ofInt? (n : Int) : Option Integer :=
  if h : -0x8000_0000_0000_0000 ≤ n ∧ n < 0x1_0000_0000_0000_0000 then some ⟨n, h.1, h.2⟩ else none

def toNat? (n : Integer) : Option Nat := if 0 ≤ n.val then some n.val.toNat else none

def toSigned? (n : Integer) : Option Int :=
  if n.val < 0x8000_0000_0000_0000 then some n.val else none

def wrap (n : Int) : Integer :=
  have low := Int.le_bmod (x := n) (m := 0x1_0000_0000_0000_0000) (by decide)
  have high := Int.bmod_lt (x := n) (m := 0x1_0000_0000_0000_0000) (by decide)
  ⟨n.bmod 0x1_0000_0000_0000_0000, by omega, by omega⟩

end Integer

inductive Number where
  | int (n : Integer)
  | float (x : Binary64)
  deriving DecidableEq

namespace Number

def same : Number → Number → Bool
  | .int m, .int n => m == n
  | .float x, .float y => x.same y
  | _, _ => false

def whole? : Number → Option Int
  | .int n => some n.val
  | .float x => x.toInt?

def toNat? : Number → Option Nat
  | .int n => n.toNat?
  | .float _ => none

def toSigned? : Number → Option Int
  | .int n => n.toSigned?
  | .float _ => none

def toBinary64 : Number → Binary64
  | .int n => .ofInt n.val
  | .float x => x

theorem same_refl (n : Number) : same n n = true := by
  cases n <;> simp [same, Binary64.same_refl]

theorem same_comm (m n : Number) : same m n = same n m := by
  cases m <;> cases n <;> simp [same, Binary64.same_comm, Bool.beq_comm]

theorem same_trans {l m n : Number} (h : same l m = true) (h' : same m n = true) :
    same l n = true := by
  cases l <;> cases m <;> cases n <;> simp_all [same]
  exact Binary64.same_trans h h'

end Number

end Diorama
