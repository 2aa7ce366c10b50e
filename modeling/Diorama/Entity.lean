namespace Diorama

/-- An entity of the scene. The scene counts them from 1 and never uses a number again. -/
structure Entity where
  id : Nat
  deriving DecidableEq, Repr, Inhabited

namespace Entity

instance : LE Entity := ⟨fun a b => a.id ≤ b.id⟩
instance : LT Entity := ⟨fun a b => a.id < b.id⟩
instance : DecidableLT Entity := fun a b => inferInstanceAs (Decidable (a.id < b.id))

theorem lt_iff {a b : Entity} : a < b ↔ a.id < b.id := .rfl

instance : Std.IsLinearOrder Entity where
  le_refl a := Nat.le_refl a.id
  le_trans _ _ _ := Nat.le_trans
  le_antisymm a b h h' := by cases a; cases b; exact congrArg _ (Nat.le_antisymm h h')
  le_total a b := Nat.le_total a.id b.id

instance : Std.LawfulOrderLT Entity where
  lt_iff _ _ := Nat.lt_iff_le_and_not_ge

def text (e : Entity) : String := s!"Entity({e.id})"

end Entity

structure RequestId where
  text : String
  deriving DecidableEq, Repr, Inhabited

namespace RequestId

instance : LE RequestId := ⟨fun a b => a.text ≤ b.text⟩
instance : LT RequestId := ⟨fun a b => a.text < b.text⟩
instance : DecidableLT RequestId := fun a b => inferInstanceAs (Decidable (a.text < b.text))

theorem lt_iff {a b : RequestId} : a < b ↔ a.text < b.text := .rfl

instance : Std.IsLinearOrder RequestId where
  le_refl a := Std.le_refl a.text
  le_trans _ _ _ h h' := Std.le_trans (α := String) h h'
  le_antisymm a b h h' := by cases a; cases b; exact congrArg _ (Std.le_antisymm (α := String) h h')
  le_total a b := Std.le_total (a := a.text) (b := b.text)

instance : Std.LawfulOrderLT RequestId where
  lt_iff a b := Std.LawfulOrderLT.lt_iff a.text b.text

def ofNat (n : Nat) : RequestId := ⟨"q" ++ toString n⟩

end RequestId

end Diorama
