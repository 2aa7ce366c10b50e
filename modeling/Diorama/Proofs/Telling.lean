import Diorama.Proofs.Tracking

namespace Diorama

def Operation.slot? : Operation → Option (Entity × String)
  | .updateComponent e c _ => some (e, c)
  | .removeComponent e c => some (e, c)
  | _ => none

namespace Replica

/-- What there is to tell of a component to a host that knows a store. -/
def change? (s known : Store) (x : Entity × String) : Option Operation :=
  match s.get? x.1 x.2 with
  | some v =>
    if (known.get? x.1 x.2).any (·.same v) then none else some (.updateComponent x.1 x.2 v)
  | none => if (known.get? x.1 x.2).isSome then some (.removeComponent x.1 x.2) else none

/-- What the host has of a component when it has been told. -/
def settle (s known : Store) (x : Entity × String) : Option Json :=
  if alike (s.get? x.1 x.2) (known.get? x.1 x.2) then known.get? x.1 x.2 else s.get? x.1 x.2

def farewell (created : List Entity) (e : Entity) : List Operation :=
  if e ∈ created then [.createEntity e, .removeEntity e] else [.removeEntity e]

def tellSlot (s : Store) (r : Replica) (x : Entity × String) : List Operation × Replica :=
  tellComponent s x.1 r x.2

theorem change?_eq_none {s known : Store} {x : Entity × String} :
    change? s known x = none ↔ alike (s.get? x.1 x.2) (known.get? x.1 x.2) = true := by
  rw [change?]
  cases s.get? x.1 x.2 with
  | none => cases known.get? x.1 x.2 <;> simp [alike]
  | some v => cases known.get? x.1 x.2 <;> simp [alike, Json.same_comm]

theorem change?_slot {s known : Store} {x : Entity × String} {op : Operation}
    (h : change? s known x = some op) : op.slot? = some x := by
  rw [change?] at h
  split at h
  · split at h
    · cases h
    · cases h
      rfl
  · split at h
    · cases h
      rfl
    · cases h

theorem changes_slots (s known : Store) (xs : List (Entity × String)) :
    ∃ slots : List (Entity × String),
      (xs.filterMap (change? s known)).map Operation.slot? = slots.map some ∧
        slots.Sublist xs := by
  induction xs with
  | nil => exact ⟨[], rfl, .slnil⟩
  | cons x xs ih =>
    obtain ⟨slots, hs, hx⟩ := ih
    cases hc : change? s known x with
    | none =>
      rw [List.filterMap_cons_none hc]
      exact ⟨slots, hs, hx.cons x⟩
    | some op =>
      rw [List.filterMap_cons_some hc, List.map_cons, hs, change?_slot hc]
      exact ⟨x :: slots, rfl, hx.cons_cons x⟩

theorem change?_congr {s known known' : Store} {x : Entity × String}
    (h : known'.get? x.1 x.2 = known.get? x.1 x.2) : change? s known' x = change? s known x := by
  rw [change?, change?, h]

theorem settle_congr {s known known' : Store} {x : Entity × String}
    (h : known'.get? x.1 x.2 = known.get? x.1 x.2) : settle s known' x = settle s known x := by
  rw [settle, settle, h]

theorem alike_settle (s known : Store) (x : Entity × String) :
    alike (s.get? x.1 x.2) (settle s known x) = true := by
  rw [settle]
  split
  · assumption
  · exact alike_refl _

section
variable (s : Store) (r : Replica) (x : Entity × String)

theorem tellSlot_ops : (tellSlot s r x).1 = (change? s r.store x).toList := by
  rw [tellSlot, tellComponent, change?]
  cases s.get? x.1 x.2 with
  | none =>
    have hk : (r.store.remove x.1 x.2).1 = r.store.get? x.1 x.2 := rfl
    simp only [hk]
    by_cases h : (r.store.get? x.1 x.2).isSome = true
    · rw [if_pos h, if_pos h]
      rfl
    · rw [if_neg h, if_neg h]
      rfl
  | some v =>
    by_cases h : (r.store.get? x.1 x.2).any (·.same v) = true
    · simp only [if_pos h]
      rfl
    · simp only [if_neg h]
      rfl

theorem tellSlot_entities : (tellSlot s r x).2.entities = r.entities := by
  rw [tellSlot, tellComponent]
  split
  · split <;> rfl
  · rfl

theorem tellSlot_get? (y : Entity × String) :
    (tellSlot s r x).2.store.get? y.1 y.2 =
      if x = y then settle s r.store x else r.store.get? y.1 y.2 := by
  have hxy : (x.1 = y.1 ∧ x.2 = y.2) = (x = y) := propext Prod.ext_iff.symm
  rw [tellSlot, tellComponent, settle]
  cases hs : s.get? x.1 x.2 with
  | none =>
    simp only [Store.get?_remove, hxy]
    split
    · cases r.store.get? x.1 x.2 <;> rfl
    · rfl
  | some v =>
    have ha : (r.store.get? x.1 x.2).any (·.same v) = alike (some v) (r.store.get? x.1 x.2) := by
      cases r.store.get? x.1 x.2 with
      | none => rfl
      | some u => exact Json.same_comm u v
    simp only [ha]
    by_cases h : alike (some v) (r.store.get? x.1 x.2) = true
    · rw [if_pos h, if_pos h]
      split
      · rename_i he
        rw [he]
      · rfl
    · rw [if_neg h, if_neg h, Store.get?_insert]
      simp only [hxy]

end

section
variable {α β : Type} (tell : Replica → α → List Operation × Replica) (r : Replica)

theorem tellAll_cons (a : α) (as : List α) :
    tellAll tell r (a :: as) =
      ((tell r a).1 ++ (tellAll tell (tell r a).2 as).1, (tellAll tell (tell r a).2 as).2) := rfl

theorem tellAll_append (as as' : List α) :
    tellAll tell r (as ++ as') =
      ((tellAll tell r as).1 ++ (tellAll tell (tellAll tell r as).2 as').1,
        (tellAll tell (tellAll tell r as).2 as').2) := by
  induction as generalizing r with
  | nil => rfl
  | cons a as ih => simp only [List.cons_append, tellAll_cons, ih, List.append_assoc]

theorem tellAll_map (f : β → α) (bs : List β) :
    tellAll tell r (bs.map f) = tellAll (fun r b => tell r (f b)) r bs := by
  induction bs generalizing r with
  | nil => rfl
  | cons b bs ih => simp only [List.map_cons, tellAll_cons, ih]

end

section
variable (s : Store) (r : Replica)

theorem tellSlots_entities (xs : List (Entity × String)) :
    (tellAll (tellSlot s) r xs).2.entities = r.entities := by
  induction xs generalizing r with
  | nil => rfl
  | cons x xs ih => exact (ih _).trans (tellSlot_entities s r x)

/-- Of entities that are gone, and of those that the host does not know, no component is told. -/
theorem tellTouched_eq (destroyed : List Entity) (ts : List (Entity × List String)) :
    tellAll (tellTouched destroyed s) r ts =
      tellAll (tellSlot s) r
        (Changes.slots (ts.filter fun t => t.1 ∉ destroyed ∧ r.knows t.1 = true)) := by
  induction ts generalizing r with
  | nil => rfl
  | cons t ts ih =>
    by_cases ht : t.1 ∉ destroyed ∧ r.knows t.1 = true
    · have hd : ¬ (t.1 ∈ destroyed ∨ ¬ r.knows t.1 = true) := by
        rw [not_or, not_not]
        exact ht
      have hr : (tellAll (tellComponent s t.1) r t.2).2.entities = r.entities := by
        rw [← tellSlots_entities s r (t.2.map (t.1, ·)), tellAll_map]
        rfl
      rw [tellAll_cons, tellTouched, if_neg hd, List.filter_cons_of_pos (by simpa using ht),
        Changes.slots, List.flatMap_cons, tellAll_append, tellAll_map, ih]
      simp only [knows, hr]
      rfl
    · have hd : t.1 ∈ destroyed ∨ ¬ r.knows t.1 = true := by
        rwa [not_and_or, not_not] at ht
      rw [tellAll_cons, tellTouched, if_pos hd, List.filter_cons_of_neg (by simpa using ht), ih]
      rfl

variable {xs : List (Entity × String)} (hxs : xs.Nodup)
include hxs

theorem tellSlots_ops : (tellAll (tellSlot s) r xs).1 = xs.filterMap (change? s r.store) := by
  induction xs generalizing r with
  | nil => rfl
  | cons x xs ih =>
    obtain ⟨hx, hxs⟩ := List.nodup_cons.mp hxs
    have hc : xs.filterMap (change? s (tellSlot s r x).2.store) =
        xs.filterMap (change? s r.store) := by
      apply List.filterMap_congr
      intro y hy
      apply change?_congr
      rw [tellSlot_get?, if_neg]
      rintro rfl
      exact hx hy
    rw [tellAll_cons]
    simp only [tellSlot_ops, ih _ hxs, hc, List.filterMap_cons]
    cases change? s r.store x <;> rfl

theorem tellSlots_get? (y : Entity × String) :
    (tellAll (tellSlot s) r xs).2.store.get? y.1 y.2 =
      if y ∈ xs then settle s r.store y else r.store.get? y.1 y.2 := by
  induction xs generalizing r with
  | nil => rfl
  | cons x xs ih =>
    obtain ⟨hx, hxs⟩ := List.nodup_cons.mp hxs
    rw [tellAll_cons]
    simp only [ih _ hxs, List.mem_cons]
    by_cases hy : y ∈ xs
    · have hne : x ≠ y := by
        rintro rfl
        exact hx hy
      have hg := tellSlot_get? s r x y
      rw [if_neg hne] at hg
      rw [if_pos hy, if_pos (.inr hy), settle_congr hg]
    · rw [if_neg hy, tellSlot_get?]
      by_cases he : x = y
      · rw [if_pos he, if_pos (.inl he.symm), he]
      · rw [if_neg he, if_neg (not_or.mpr ⟨Ne.symm he, hy⟩)]

end

section
variable (r : Replica) (es : List Entity)

theorem tellCreated_ops (destroyed : List Entity) :
    (tellAll (tellCreated destroyed) r es).1 =
      (es.filter (· ∉ destroyed)).map .createEntity := by
  induction es generalizing r with
  | nil => rfl
  | cons e es ih =>
    rw [tellAll_cons]
    simp only [ih, tellCreated]
    by_cases he : e ∈ destroyed <;> simp [he]

theorem tellCreated_store (destroyed : List Entity) :
    (tellAll (tellCreated destroyed) r es).2.store = r.store := by
  induction es generalizing r with
  | nil => rfl
  | cons e es ih =>
    rw [tellAll_cons]
    simp only [ih, tellCreated]
    by_cases he : e ∈ destroyed <;> simp [he]

theorem tellCreated_knows (destroyed : List Entity) {f : Entity} :
    (tellAll (tellCreated destroyed) r es).2.knows f = true ↔
      r.knows f = true ∨ f ∈ es ∧ f ∉ destroyed := by
  induction es generalizing r with
  | nil => simp [tellAll]
  | cons e es ih =>
    rw [tellAll_cons]
    simp only [ih, tellCreated, List.mem_cons]
    by_cases he : e ∈ destroyed
    · simp only [if_pos he]
      grind
    · simp only [if_neg he, knows, Table.contains_insert]
      grind

variable {created : List Entity} (hes : es.Nodup)
  (hr : ∀ e ∈ es, r.knows e = true ∨ e ∈ created)
include hes hr

theorem tellDestroyed_ops :
    (tellAll (tellDestroyed created) r es).1 = es.flatMap (farewell created) := by
  induction es generalizing r with
  | nil => rfl
  | cons e es ih =>
    obtain ⟨he, hes⟩ := List.nodup_cons.mp hes
    rw [tellAll_cons, List.flatMap_cons, farewell]
    simp only [tellDestroyed]
    by_cases hc : e ∈ created
    · simp only [if_pos hc]
      rw [ih r hes fun f hf => hr f (.tail _ hf)]
    · have hk : r.knows e = true := (hr e (.head _)).resolve_right hc
      simp only [if_neg hc, if_pos hk]
      rw [ih _ hes]
      intro f hf
      have hne : e ≠ f := by
        rintro rfl
        exact he hf
      simpa [knows, hne] using hr f (.tail _ hf)

theorem tellDestroyed_replica :
    (∀ f, (tellAll (tellDestroyed created) r es).2.knows f = true ↔
        r.knows f = true ∧ ¬ (f ∈ es ∧ f ∉ created)) ∧
      ∀ f c, (tellAll (tellDestroyed created) r es).2.store.get? f c =
        if f ∈ es ∧ f ∉ created then none else r.store.get? f c := by
  induction es generalizing r with
  | nil => simp [tellAll]
  | cons e es ih =>
    obtain ⟨he, hes⟩ := List.nodup_cons.mp hes
    rw [tellAll_cons]
    simp only [tellDestroyed]
    by_cases hc : e ∈ created
    · simp only [if_pos hc]
      obtain ⟨hk, hg⟩ := ih r hes fun f hf => hr f (.tail _ hf)
      refine ⟨fun f => ?_, fun f c => ?_⟩
      · rw [hk, List.mem_cons]
        grind
      · rw [hg]
        grind
    · have hk : r.knows e = true := (hr e (.head _)).resolve_right hc
      simp only [if_neg hc, if_pos hk]
      obtain ⟨hk', hg⟩ := ih { entities := r.entities.erase e, store := (r.store.removeEntity e).2 }
        hes (by
          intro f hf
          have hne : e ≠ f := by
            rintro rfl
            exact he hf
          simpa [knows, hne] using hr f (.tail _ hf))
      refine ⟨fun f => ?_, fun f c => ?_⟩
      · rw [hk', List.mem_cons]
        simp only [knows, Table.contains_erase]
        grind
      · rw [hg, Store.get?_removeEntity]
        grind

end

end Replica

/-- The touched components of the living entities. -/
def Scene.due (s : Scene) : List (Entity × String) :=
  (Changes.slots s.changes.touched).filter fun x => s.entities.isAlive x.1

namespace Tracked

open Replica

variable {s : Scene} {r : Replica}

theorem nodup_due (h : Tracked s r) : s.due.Nodup := by
  obtain ⟨xs, hx⟩ := h.order
  rw [Scene.due, hx]
  exact (Changes.nodup_slots_grouped xs).filter _

/-- With the host told of the new entities. -/
def greeted (s : Scene) (r : Replica) : Replica :=
  (tellAll (tellCreated s.changes.destroyed) r s.changes.created).2

theorem greeted_store : (greeted s r).store = r.store := tellCreated_store ..

theorem greeted_alive (h : Tracked s r) {e : Entity} :
    e ∉ s.changes.destroyed ∧ (greeted s r).knows e = true ↔ s.entities.isAlive e = true := by
  rw [greeted, tellCreated_knows, h.alive_iff]
  grind

/-- Then of the components. -/
def informed (s : Scene) (r : Replica) : Replica :=
  (tellAll (tellSlot s.store) (greeted s r) s.due).2

theorem informed_knows (e : Entity) : (informed s r).knows e = (greeted s r).knows e := by
  rw [knows, informed, tellSlots_entities, knows]

theorem informed_get? (h : Tracked s r) (x : Entity × String) :
    (informed s r).store.get? x.1 x.2 =
      if x ∈ s.due then settle s.store r.store x else r.store.get? x.1 x.2 := by
  rw [informed, tellSlots_get? _ _ h.nodup_due, greeted_store]

theorem farewells (h : Tracked s r) {e : Entity} (he : e ∈ s.changes.destroyed) :
    (informed s r).knows e = true ∨ e ∈ s.changes.created := by
  rw [informed_knows, greeted, tellCreated_knows]
  exact (h.destroyed_once he).imp_left .inl

theorem sync_eq (h : Tracked s r) : r.sync s.changes s.store =
    ((tellAll (tellCreated s.changes.destroyed) r s.changes.created).1
      ++ (tellAll (tellSlot s.store) (greeted s r) s.due).1
      ++ (tellAll (tellDestroyed s.changes.created) (informed s r) s.changes.destroyed).1,
    (tellAll (tellDestroyed s.changes.created) (informed s r) s.changes.destroyed).2) := by
  have ht : s.changes.touched.filter
      (fun t => t.1 ∉ s.changes.destroyed ∧ (greeted s r).knows t.1 = true) =
        s.changes.touched.filter fun t => s.entities.isAlive t.1 := by
    apply List.filter_congr
    intro t ht
    rw [Bool.eq_iff_iff, decide_eq_true_eq]
    exact h.greeted_alive
  have hs : tellAll (tellTouched s.changes.destroyed s.store) (greeted s r) s.changes.touched =
      tellAll (tellSlot s.store) (greeted s r) s.due := by
    rw [tellTouched_eq, ht, Changes.slots_filter, Scene.due]
  rw [greeted] at hs
  simp only [sync, hs]
  rfl

theorem sync_ops (h : Tracked s r) : (r.sync s.changes s.store).1 =
    (s.changes.created.filter fun e => s.entities.isAlive e).map .createEntity
      ++ s.due.filterMap (change? s.store r.store)
      ++ s.changes.destroyed.flatMap (farewell s.changes.created) := by
  have hc : s.changes.created.filter (· ∉ s.changes.destroyed) =
      s.changes.created.filter fun e => s.entities.isAlive e := by
    apply List.filter_congr
    intro e he
    rw [Bool.eq_iff_iff, decide_eq_true_eq, h.alive_iff]
    exact ⟨fun hd => ⟨.inr he, hd⟩, And.right⟩
  rw [h.sync_eq, tellCreated_ops, tellSlots_ops _ _ h.nodup_due, greeted_store,
    tellDestroyed_ops _ _ h.nodup_destroyed fun e he => h.farewells he, hc]

theorem slot?_created {es : List Entity} {op : Operation} (h : op ∈ es.map .createEntity) :
    op.slot? = none := by
  obtain ⟨e, _, rfl⟩ := List.mem_map.mp h
  rfl

theorem slot?_farewell {created es : List Entity} {op : Operation}
    (h : op ∈ es.flatMap (farewell created)) : op.slot? = none := by
  obtain ⟨e, _, he⟩ := List.mem_flatMap.mp h
  rw [farewell] at he
  split at he
  · obtain rfl | he := List.mem_cons.mp he
    · rfl
    · obtain rfl := List.mem_singleton.mp he
      rfl
  · obtain rfl := List.mem_singleton.mp he
    rfl

theorem mem_sync (h : Tracked s r) {op : Operation} {x : Entity × String}
    (ho : op.slot? = some x) :
    op ∈ (r.sync s.changes s.store).1 ↔ x ∈ s.due ∧ change? s.store r.store x = some op := by
  rw [h.sync_ops, List.mem_append, List.mem_append, List.mem_filterMap]
  constructor
  · rintro ((hm | ⟨y, hy, hc⟩) | hm)
    · rw [slot?_created hm] at ho
      cases ho
    · have he := change?_slot hc
      rw [ho] at he
      obtain rfl := Option.some.inj he
      exact ⟨hy, hc⟩
    · rw [slot?_farewell hm] at ho
      cases ho
  · rintro ⟨hx, hc⟩
    exact .inl (.inr ⟨x, hx, hc⟩)

theorem mem_sync_alive (h : Tracked s r) {op : Operation} {x : Entity × String}
    (ho : op.slot? = some x) (ha : s.entities.isAlive x.1 = true) :
    op ∈ (r.sync s.changes s.store).1 ↔ change? s.store r.store x = some op := by
  rw [h.mem_sync ho]
  refine ⟨And.right, fun hc => ⟨List.mem_filter.mpr ⟨?_, ha⟩, hc⟩⟩
  apply h.covered ha
  rw [← Bool.not_eq_true]
  intro hl
  rw [change?_eq_none.mpr hl] at hc
  cases hc

theorem slots_sync (h : Tracked s r) :
    ((r.sync s.changes s.store).1.filterMap Operation.slot?).Sublist s.due := by
  obtain ⟨slots, hs, hx⟩ := changes_slots s.store r.store s.due
  have hc : (s.due.filterMap (change? s.store r.store)).filterMap Operation.slot? = slots := by
    have hm := congrArg (List.filterMap id) hs
    rw [List.filterMap_map, List.filterMap_map] at hm
    exact hm.trans List.filterMap_some
  rw [h.sync_ops, List.filterMap_append, List.filterMap_append, hc,
    List.filterMap_eq_nil_iff.mpr fun op => slot?_created,
    List.filterMap_eq_nil_iff.mpr fun op => slot?_farewell, List.nil_append, List.append_nil]
  exact hx

theorem sync_knows (h : Tracked s r) (e : Entity) :
    (r.sync s.changes s.store).2.knows e = s.entities.isAlive e := by
  have hd := tellDestroyed_replica _ _ h.nodup_destroyed fun e he => h.farewells he
  have hu := h.created_unknown (e := e)
  rw [h.sync_eq, Bool.eq_iff_iff, hd.1, informed_knows, greeted, tellCreated_knows, h.alive_iff]
  grind

theorem sync_alike (h : Tracked s r) (e : Entity) (c : String) :
    alike (s.store.get? e c) ((r.sync s.changes s.store).2.store.get? e c) = true := by
  have hd := tellDestroyed_replica _ _ h.nodup_destroyed fun e he => h.farewells he
  rw [h.sync_eq, hd.2]
  cases ha : s.entities.isAlive e with
  | true =>
    have hn := (h.alive_iff.mp ha).2
    rw [if_neg fun hx => hn hx.1, h.informed_get? (e, c)]
    split
    · exact alike_settle s.store r.store (e, c)
    -- What is not touched is the same on both sides.
    · rename_i hx
      by_contra hc
      have hs := h.covered ha (Bool.not_eq_true _ ▸ hc)
      exact hx (List.mem_filter.mpr ⟨hs, ha⟩)
  | false =>
    have hx : (e, c) ∉ s.due := fun hx => by
      rw [(List.mem_filter.mp hx).2] at ha
      cases ha
    rw [h.dead_store ha, h.informed_get? (e, c), if_neg hx]
    split
    · rfl
    · rename_i hg
      have hk : r.knows e = false := by
        have hi := h.alive_iff (e := e)
        have hu := h.created_unknown (e := e)
        grind
      rw [h.unknown_store hk]
      rfl

theorem flush (h : Tracked s r) :
    Tracked { s with changes := {} } (r.sync s.changes s.store).2 where
  known_lt hk := h.alive_lt (h.sync_knows _ ▸ hk)
  created_lt he := absurd he List.not_mem_nil
  alive_iff := by
    intro e
    rw [h.sync_knows]
    simp
  created_unknown he := absurd he List.not_mem_nil
  destroyed_once he := absurd he List.not_mem_nil
  nodup_created := .nil
  nodup_destroyed := .nil
  order := ⟨[], rfl⟩
  stored := h.stored
  mirrored := by
    intro e c hs
    rw [h.sync_knows]
    by_contra ha
    have hl := h.sync_alike e c
    rw [h.dead_store (Bool.not_eq_true _ ▸ ha)] at hl
    obtain ⟨v, hv⟩ := Option.isSome_iff_exists.mp hs
    rw [hv] at hl
    cases hl
  covered := by
    intro e c ha hc
    rw [h.sync_alike] at hc
    cases hc

end Tracked

end Diorama
