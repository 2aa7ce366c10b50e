import Diorama.Json.Number
import Diorama.Table

/-!
Values of documents. The fields of an object stand in ascending order of their names, so one value
has one representation up to the two zeros. Main statements: `same` is an equivalence.
-/

namespace Diorama

inductive Json where
  | null
  | bool (b : Bool)
  | num (n : Number)
  | str (s : String)
  | arr (items : List Json)
  | obj (fields : List (String × Json))
  deriving Inhabited

namespace Json

/-- The object with the given fields. Of several with one name the last counts. -/
def ofFields (fields : List (String × Json)) : Json :=
  .obj (fields.foldl (fun fs f => put f.1 f.2 fs) [])

def float (x : Binary64) : Json := if x.isFinite then .num (.float x) else .null

mutual

def same : Json → Json → Bool
  | .null, .null => true
  | .bool a, .bool b => a == b
  | .num m, .num n => m.same n
  | .str s, .str t => s == t
  | .arr xs, .arr ys => sameItems xs ys
  | .obj fs, .obj gs => sameFields fs gs
  | _, _ => false

def sameItems : List Json → List Json → Bool
  | [], [] => true
  | x :: xs, y :: ys => same x y && sameItems xs ys
  | _, _ => false

def sameFields : List (String × Json) → List (String × Json) → Bool
  | [], [] => true
  | (k, x) :: fs, (l, y) :: gs => k == l && same x y && sameFields fs gs
  | _, _ => false

end

mutual

def height : Json → Nat
  | .arr xs => heightItems xs + 1
  | .obj fs => heightFields fs + 1
  | _ => 0

def heightItems : List Json → Nat
  | [] => 0
  | x :: xs => max (height x) (heightItems xs)

def heightFields : List (String × Json) → Nat
  | [] => 0
  | (_, x) :: fs => max (height x) (heightFields fs)

end

mutual

theorem same_refl : ∀ x, same x x = true
  | .null => rfl
  | .bool _ => by simp [same]
  | .num n => by simp [same, Number.same_refl]
  | .str _ => by simp [same]
  | .arr xs => by simp only [same]; exact sameItems_refl xs
  | .obj fs => by simp only [same]; exact sameFields_refl fs

theorem sameItems_refl : ∀ xs, sameItems xs xs = true
  | [] => rfl
  | x :: xs => by simp [sameItems, same_refl x, sameItems_refl xs]

theorem sameFields_refl : ∀ fs, sameFields fs fs = true
  | [] => rfl
  | (_, x) :: fs => by simp [sameFields, same_refl x, sameFields_refl fs]

end

mutual

theorem same_comm : ∀ x y, same x y = same y x
  | .null, y => by cases y <;> rfl
  | .bool a, y => by cases y <;> simp [same, Bool.beq_comm]
  | .num m, y => by cases y <;> simp [same, Number.same_comm]
  | .str s, y => by cases y <;> simp [same, Bool.beq_comm]
  | .arr xs, y => by
    cases y with
    | arr ys => simp only [same]; exact sameItems_comm xs ys
    | _ => rfl
  | .obj fs, y => by
    cases y with
    | obj gs => simp only [same]; exact sameFields_comm fs gs
    | _ => rfl

theorem sameItems_comm : ∀ xs ys, sameItems xs ys = sameItems ys xs
  | [], ys => by cases ys <;> rfl
  | x :: xs, [] => rfl
  | x :: xs, y :: ys => by simp only [sameItems, same_comm x y, sameItems_comm xs ys]

theorem sameFields_comm : ∀ fs gs, sameFields fs gs = sameFields gs fs
  | [], gs => by cases gs <;> rfl
  | _ :: _, [] => rfl
  | (k, x) :: fs, (l, y) :: gs => by
    simp only [sameFields, same_comm x y, sameFields_comm fs gs, Bool.beq_comm (a := k)]

end

mutual

theorem same_trans : ∀ x y z, same x y = true → same y z = true → same x z = true
  | .null, y, z, h, h' => by cases y <;> cases z <;> simp_all [same]
  | .bool _, y, z, h, h' => by cases y <;> cases z <;> simp_all [same]
  | .num l, y, z, h, h' => by
    cases y <;> cases z <;> simp_all only [same, Bool.false_eq_true]
    exact Number.same_trans h h'
  | .str _, y, z, h, h' => by cases y <;> cases z <;> simp_all [same]
  | .arr xs, y, z, h, h' => by
    cases y <;> cases z <;> simp only [same, Bool.false_eq_true] at h h' ⊢
    exact sameItems_trans xs _ _ h h'
  | .obj fs, y, z, h, h' => by
    cases y <;> cases z <;> simp only [same, Bool.false_eq_true] at h h' ⊢
    exact sameFields_trans fs _ _ h h'

theorem sameItems_trans :
    ∀ xs ys zs, sameItems xs ys = true → sameItems ys zs = true → sameItems xs zs = true
  | [], ys, zs, h, h' => by cases ys <;> cases zs <;> simp_all [sameItems]
  | x :: xs, [], zs, h, h' => by simp [sameItems] at h
  | x :: xs, y :: ys, [], h, h' => by simp [sameItems] at h'
  | x :: xs, y :: ys, z :: zs, h, h' => by
    simp only [sameItems, Bool.and_eq_true] at *
    exact ⟨same_trans x y z h.1 h'.1, sameItems_trans xs ys zs h.2 h'.2⟩

theorem sameFields_trans :
    ∀ fs gs hs, sameFields fs gs = true → sameFields gs hs = true → sameFields fs hs = true
  | [], gs, hs, h, h' => by cases gs <;> cases hs <;> simp_all [sameFields]
  | _ :: _, [], hs, h, h' => by simp [sameFields] at h
  | _ :: _, _ :: _, [], h, h' => by simp [sameFields] at h'
  | (k, x) :: fs, (l, y) :: gs, (m, z) :: hs, h, h' => by
    simp only [sameFields, Bool.and_eq_true, beq_iff_eq] at *
    exact ⟨⟨h.1.1.trans h'.1.1, same_trans x y z h.1.2 h'.1.2⟩,
      sameFields_trans fs gs hs h.2 h'.2⟩

end

end Json

end Diorama
