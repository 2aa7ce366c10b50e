import Diorama.Proofs.Atomicity
import Mathlib.Data.Finset.Card
import Mathlib.Data.List.Nodup

namespace Diorama

abbrev Flat := Entity × String → Option Json

namespace Store

inductive Write where
  | insert (entity : Entity) (component : String) (value : Json)
  | remove (entity : Entity) (component : String)
  | removeEntity (entity : Entity)

def write (s : Store) : Write → Store
  | .insert e c v => (s.insert e c v).2
  | .remove e c => (s.remove e c).2
  | .removeEntity e => (s.removeEntity e).2

end Store

namespace Flat

def write (m : Flat) : Store.Write → Flat
  | .insert e c v => Function.update m (e, c) (some v)
  | .remove e c => Function.update m (e, c) none
  | .removeEntity e => fun k => if k.1 = e then none else m k

end Flat

namespace Store

def flat (s : Store) : Flat := fun k => s.get? k.1 k.2

theorem flat_write (s : Store) (x : Write) : (s.write x).flat = s.flat.write x := by
  funext ⟨e, c⟩
  cases x with
  | insert f d v =>
    simp only [flat, write, Flat.write, get?_insert, Function.update_apply, Prod.mk.injEq,
      eq_comm]
  | remove f d =>
    simp only [flat, write, Flat.write, get?_remove, Function.update_apply, Prod.mk.injEq,
      eq_comm]
  | removeEntity f => simp only [flat, write, Flat.write, get?_removeEntity, eq_comm]

theorem Tidy.write {s : Store} (hs : s.Tidy) (x : Write) : (s.write x).Tidy := by
  cases x with
  | insert e c v => exact hs.insert e c v
  | remove e c => exact hs.remove e c
  | removeEntity e => exact hs.erase e

theorem Tidy.writes {s : Store} (hs : s.Tidy) (xs : List Write) :
    (xs.foldl Store.write s).Tidy := by
  induction xs generalizing s with
  | nil => exact hs
  | cons x xs ih => exact ih (hs.write x)

theorem flat_writes (s : Store) (xs : List Write) :
    (xs.foldl write s).flat = xs.foldl Flat.write s.flat := by
  induction xs generalizing s with
  | nil => rfl
  | cons x xs ih => rw [List.foldl_cons, List.foldl_cons, ih, flat_write]

theorem mem_names {s : Store} {e : Entity} {c : String} :
    c ∈ s.names e ↔ (s.get? e c).isSome = true := Table.mem_keys

/-- The components of all entities, row by row. -/
def slots (s : Store) : List (Entity × String) :=
  s.rows.entries.flatMap fun r => r.2.keys.map (r.1, ·)

theorem row_of_mem {s : Store} {e : Entity} {row : Table String Json}
    (hr : (e, row) ∈ s.rows.entries) : s.row e = row := by
  rw [Store.row, Table.get?_eq_some.mpr hr, Option.getD_some]

theorem mem_slots {s : Store} {e : Entity} {c : String} :
    (e, c) ∈ s.slots ↔ (s.get? e c).isSome = true := by
  rw [← mem_names, names, slots, List.mem_flatMap]
  constructor
  · rintro ⟨⟨f, row⟩, hr, hc⟩
    obtain ⟨d, hd, hx⟩ := List.mem_map.mp hc
    obtain ⟨rfl, rfl⟩ := Prod.mk.inj hx
    rwa [row_of_mem hr]
  · intro hc
    cases hr : s.rows.get? e with
    | none =>
      rw [row, hr] at hc
      cases hc
    | some row =>
      have hr := Table.get?_eq_some.mp hr
      rw [row_of_mem hr] at hc
      exact ⟨(e, row), hr, List.mem_map_of_mem hc⟩

theorem nodup_slots (s : Store) : s.slots.Nodup := by
  rw [slots, List.nodup_flatMap]
  constructor
  · intro r _
    exact r.2.keys_nodup.map fun c d h => (Prod.mk.inj h).2
  · apply s.rows.ordered.imp
    intro r t hrt x hx hy
    obtain ⟨c, _, rfl⟩ := List.mem_map.mp hx
    obtain ⟨d, _, hd⟩ := List.mem_map.mp hy
    exact Std.ne_of_lt hrt (Prod.mk.inj hd).1.symm

theorem length_slots (s : Store) : s.slots.length = s.size := by
  rw [slots, size, Table.values]
  induction s.rows.entries with
  | nil => rfl
  | cons r rows ih =>
    rw [List.flatMap_cons, List.length_append, ih, List.length_map, Table.keys, List.length_map]
    rfl

theorem isEmpty_iff {s : Store} (hs : s.Tidy) : s.isEmpty = true ↔ s.size = 0 := by
  rw [isEmpty, Table.isEmpty, List.isEmpty_iff, ← length_slots, List.length_eq_zero_iff]
  constructor
  · intro hn
    rw [slots, hn, List.flatMap_nil]
  · intro hn
    rw [List.eq_nil_iff_forall_not_mem]
    rintro ⟨e, row⟩ hr
    have hk : row.keys = [] :=
      List.map_eq_nil_iff.mp (List.flatMap_eq_nil_iff.mp hn (e, row) hr)
    have ht := hs e row (Table.get?_eq_some.mpr hr)
    rw [Table.isEmpty, List.map_eq_nil_iff.mp hk] at ht
    cases ht

/-- Whatever is written to a store, it is one map from components to values: it finds what the map
has, hands out what was there before, lists the types of an entity in ascending order, and counts
every component once. -/
theorem store_is_flat (xs : List Write) :
    let s := xs.foldl write {}
    let m := xs.foldl Flat.write fun _ => none
    (∀ e c, s.get? e c = m (e, c) ∧ s.contains e c = (m (e, c)).isSome) ∧
    (∀ e c v, (s.insert e c v).1 = m (e, c) ∧ (s.remove e c).1 = m (e, c)) ∧
    (∀ e, (s.names e).Pairwise (· < ·) ∧ ∀ c, c ∈ s.names e ↔ (m (e, c)).isSome = true) ∧
    (∀ e, ((s.removeEntity e).1.Nodup ∧
        ∀ c, c ∈ (s.removeEntity e).1 ↔ (m (e, c)).isSome = true) ∧
      ∀ f, (s.removeEntity e).2.row f = if f = e then ∅ else s.row f) ∧
    (∃ keys : Finset (Entity × String),
      (∀ k, k ∈ keys ↔ (m k).isSome = true) ∧ s.size = keys.card) ∧
    (s.isEmpty = true ↔ s.size = 0) := by
  intro s m
  have hm (e : Entity) (c : String) : s.get? e c = m (e, c) :=
    congrFun (flat_writes {} xs) (e, c)
  have hn (e : Entity) (c : String) : c ∈ s.names e ↔ (m (e, c)).isSome = true := by
    rw [mem_names, hm]
  refine ⟨fun e c => ⟨hm e c, ?_⟩, fun e c v => ⟨hm e c, hm e c⟩,
    fun e => ⟨(s.row e).keys_ascending, hn e⟩,
    fun e => ⟨⟨(s.row e).keys_nodup, hn e⟩, fun f => ?_⟩,
    ⟨⟨s.slots, s.nodup_slots⟩, fun ⟨e, c⟩ => ?_, s.length_slots.symm⟩,
    isEmpty_iff (Tidy.fresh.writes xs)⟩
  · rw [contains, hm]
  · rw [removeEntity, row_drop]
    simp only [eq_comm]
  · rw [← hm]
    exact mem_slots

end Store

end Diorama
