import Diorama.Scene.Changes
import Diorama.Scene.Entities
import Diorama.Scene.Store

namespace Diorama

namespace Table

section
variable {κ α : Type} [LT κ]

theorem keys_ascending (t : Table κ α) : t.keys.Pairwise (· < ·) := List.pairwise_map.mpr t.ordered

theorem keys_nodup [LE κ] [Std.LawfulOrderLT κ] (t : Table κ α) : t.keys.Nodup :=
  t.keys_ascending.imp fun h => Std.ne_of_lt h

end

variable {κ α : Type} [DecidableEq κ] [LT κ]

@[simp] theorem contains_erase (t : Table κ α) (k j : κ) :
    (t.erase k).contains j = (decide (k ≠ j) && t.contains j) := by
  rw [contains, get?_erase]
  by_cases h : k = j <;> simp [h, contains]

theorem contains_of_get? {t : Table κ α} {k : κ} {a : α} (h : t.get? k = some a) :
    t.contains k = true := by
  rw [contains, h, Option.isSome_some]

theorem isEmpty_iff {t : Table κ α} : t.isEmpty = true ↔ ∀ k, t.get? k = none := by
  constructor
  · intro h k
    rw [isEmpty, List.isEmpty_iff] at h
    rw [get?, h, find?]
  · intro h
    rw [isEmpty, List.isEmpty_iff, List.eq_nil_iff_forall_not_mem]
    intro e he
    exact find?_eq_none.mp (h e.1) e he rfl

variable [LE κ] [Std.LawfulOrderLT κ] [Std.IsLinearOrder κ] [DecidableLT κ]

@[simp] theorem contains_insert (t : Table κ α) (k j : κ) (a : α) :
    (t.insert k a).contains j = (decide (k = j) || t.contains j) := by
  rw [contains, get?_insert]
  by_cases h : k = j <;> simp [h, contains]

end Table

namespace Entities

theorem isAlive_create (es : Entities) (e : Entity) :
    es.create.2.isAlive e = (decide (⟨es.next⟩ = e) || es.isAlive e) :=
  Table.contains_insert ..

theorem isAlive_erase (es : Entities) (x e : Entity) :
    isAlive { es with alive := es.alive.erase x } e = (decide (x ≠ e) && es.isAlive e) :=
  Table.contains_erase ..

end Entities

namespace Store

theorem row_put (rows : Table Entity (Table String Json)) (x e : Entity)
    (r : Table String Json) :
    row ⟨rows.insert x r⟩ e = if x = e then r else row ⟨rows⟩ e := by
  rw [row, Table.get?_insert]
  split <;> rfl

theorem row_drop (rows : Table Entity (Table String Json)) (x e : Entity) :
    row ⟨rows.erase x⟩ e = if x = e then ∅ else row ⟨rows⟩ e := by
  rw [row, Table.get?_erase]
  split <;> rfl

@[simp] theorem get?_insert (s : Store) (x e : Entity) (d c : String) (v : Json) :
    (s.insert x d v).2.get? e c = if x = e ∧ d = c then some v else s.get? e c := by
  rw [insert, get?, row_put]
  by_cases he : x = e
  · subst he
    rw [if_pos rfl, Table.get?_insert]
    simp only [true_and, get?]
  · rw [if_neg he, if_neg fun h => he h.1, get?]

theorem row_remove (s : Store) (x e : Entity) (d : String) :
    (s.remove x d).2.row e = if x = e then (s.row x).erase d else s.row e := by
  simp only [remove]
  split
  · rename_i hr
    have hn : (s.row x).erase d = ∅ := Table.ext_get? (Table.isEmpty_iff.mp hr)
    rw [row_drop, hn]
  · rw [row_put]

@[simp] theorem get?_remove (s : Store) (x e : Entity) (d c : String) :
    (s.remove x d).2.get? e c = if x = e ∧ d = c then none else s.get? e c := by
  rw [get?, row_remove]
  by_cases he : x = e
  · subst he
    rw [if_pos rfl, Table.get?_erase]
    simp only [true_and, get?]
  · rw [if_neg he, if_neg fun h => he h.1, get?]

@[simp] theorem get?_removeEntity (s : Store) (x e : Entity) (c : String) :
    (s.removeEntity x).2.get? e c = if x = e then none else s.get? e c := by
  rw [removeEntity, get?, row_drop]
  by_cases he : x = e
  · rw [if_pos he, if_pos he, Table.get?_empty]
  · rw [if_neg he, if_neg he, get?]

end Store

section
variable {α : Type} [DecidableEq α] {a b : α} {as : List α}

@[simp] theorem mem_note : b ∈ note a as ↔ b ∈ as ∨ b = a := by
  rw [note]
  by_cases h : a ∈ as
  · rw [if_pos h]
    exact ⟨.inl, fun hb => hb.elim id fun he => he ▸ h⟩
  · rw [if_neg h, List.mem_append, List.mem_singleton]

theorem note_new (h : a ∉ as) : note a as = as ++ [a] := if_neg h

theorem nodup_note (h : as.Nodup) : (note a as).Nodup := by
  by_cases ha : a ∈ as
  · rwa [note, if_pos ha]
  · rw [note_new ha]
    refine List.nodup_append.mpr ⟨h, List.pairwise_singleton .., fun x hx y hy he => ?_⟩
    exact ha (List.mem_singleton.mp hy ▸ he ▸ hx)

end

end Diorama
