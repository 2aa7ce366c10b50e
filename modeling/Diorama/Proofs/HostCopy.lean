import Diorama.Proofs.Telling

namespace Diorama

structure Copy where
  /-- Every entity that was ever created. -/
  seen : List Entity := []
  /-- The components of the entities that the host holds. -/
  rows : Table Entity (Table String Json) := ∅

namespace Copy

def holds (c : Copy) (e : Entity) : Bool := c.rows.contains e

def get? (c : Copy) (e : Entity) (name : String) : Option Json :=
  (c.rows.get? e).bind (·.get? name)

/-- Carry out an operation, if it is in place. -/
def apply (c : Copy) : Operation → Option Copy
  | .createEntity e => if e ∈ c.seen then none else some ⟨e :: c.seen, c.rows.insert e ∅⟩
  | .removeEntity e => if c.holds e then some { c with rows := c.rows.erase e } else none
  | .updateComponent e name v =>
    (c.rows.get? e).map fun row => { c with rows := c.rows.insert e (row.insert name v) }
  | .removeComponent e name =>
    (c.rows.get? e).bind fun row =>
      if row.contains name then some { c with rows := c.rows.insert e (row.erase name) } else none

def follow (c : Copy) (ops : List Operation) : Option Copy := ops.foldlM apply c

theorem follow_append (c : Copy) (ops ops' : List Operation) :
    c.follow (ops ++ ops') = (c.follow ops).bind (·.follow ops') := List.foldlM_append

theorem follow_single (c : Copy) (op : Operation) : c.follow [op] = c.apply op := by
  rw [follow, List.foldlM_cons]
  exact bind_pure _

theorem seen_apply {c c' : Copy} {op : Operation} (h : c.apply op = some c') {e : Entity} :
    e ∈ c'.seen ↔ e ∈ c.seen ∨ op = .createEntity e := by
  cases op with
  | createEntity f =>
    simp only [apply, Option.ite_none_left_eq_some, Option.some.injEq] at h
    rw [← h.2, List.mem_cons, or_comm, Operation.createEntity.injEq, eq_comm (a := e)]
  | removeEntity f =>
    simp only [apply, Option.ite_none_right_eq_some, Option.some.injEq] at h
    simp [← h.2]
  | updateComponent f name v =>
    simp only [apply, Option.map_eq_some_iff] at h
    obtain ⟨row, _, rfl⟩ := h
    simp
  | removeComponent f name =>
    simp only [apply, Option.bind_eq_some_iff, Option.ite_none_right_eq_some,
      Option.some.injEq] at h
    obtain ⟨row, _, _, rfl⟩ := h
    simp

theorem seen_follow {c c' : Copy} {ops : List Operation} (h : c.follow ops = some c')
    {e : Entity} : e ∈ c'.seen ↔ e ∈ c.seen ∨ .createEntity e ∈ ops := by
  induction ops generalizing c with
  | nil =>
    obtain rfl := Option.some.inj h
    simp
  | cons op ops ih =>
    rw [follow, List.foldlM_cons] at h
    obtain ⟨c₁, h₁, h₂⟩ := Option.bind_eq_some_iff.mp h
    rw [ih h₂, seen_apply h₁, List.mem_cons, or_assoc, eq_comm (a := op)]

end Copy

open Replica

/-- The host has what the scene takes it to have. -/
structure Agrees (c : Copy) (r : Replica) : Prop where
  holds (e : Entity) : c.holds e = r.knows e
  get? (e : Entity) (name : String) : c.get? e name = r.store.get? e name

namespace Agrees

variable {c : Copy} {r : Replica}

theorem fresh : Agrees {} {} := ⟨fun _ => rfl, fun _ _ => rfl⟩

theorem unknown (h : Agrees c r) {e : Entity} (hk : r.knows e = false) (name : String) :
    r.store.get? e name = none := by
  rw [← h.get?, Copy.get?]
  have hh := h.holds e
  rw [hk, Copy.holds, Table.contains, Option.isSome_eq_false_iff, Option.isNone_iff_eq_none] at hh
  rw [hh]
  rfl

theorem row (h : Agrees c r) {e : Entity} (hk : r.knows e = true) :
    ∃ row, c.rows.get? e = some row ∧ ∀ name, row.get? name = r.store.get? e name := by
  obtain ⟨row, hr⟩ := Option.isSome_iff_exists.mp ((h.holds e).trans hk)
  refine ⟨row, hr, fun name => ?_⟩
  rw [← h.get?, Copy.get?, hr]
  rfl

theorem create (h : Agrees c r) {e : Entity} (hs : e ∉ c.seen) (hk : r.knows e = false) :
    ∃ c', c.apply (.createEntity e) = some c' ∧
      Agrees c' { r with entities := r.entities.insert e () } := by
  refine ⟨_, if_neg hs, fun f => ?_, fun f name => ?_⟩
  · have hh := h.holds f
    simp only [Copy.holds, knows, Table.contains_insert] at hh ⊢
    rw [hh]
  · have hg := h.get? f name
    simp only [Copy.get?, Table.get?_insert] at hg ⊢
    by_cases he : e = f
    · subst he
      rw [if_pos rfl, h.unknown hk]
      rfl
    · rw [if_neg he, hg]

theorem remove (h : Agrees c r) {e : Entity} (hk : r.knows e = true) :
    ∃ c', c.apply (.removeEntity e) = some c' ∧
      Agrees c' { entities := r.entities.erase e, store := (r.store.removeEntity e).2 } := by
  refine ⟨_, if_pos ((h.holds e).trans hk), fun f => ?_, fun f name => ?_⟩
  · have hh := h.holds f
    simp only [Copy.holds, knows, Table.contains_erase] at hh ⊢
    rw [hh]
  · have hg := h.get? f name
    simp only [Copy.get?, Table.get?_erase, Store.get?_removeEntity] at hg ⊢
    by_cases he : e = f
    · rw [if_pos he, if_pos he]
      rfl
    · rw [if_neg he, if_neg he, hg]

theorem flash (h : Agrees c r) {e : Entity} (hs : e ∉ c.seen) (hk : r.knows e = false) :
    ∃ c', c.follow [.createEntity e, .removeEntity e] = some c' ∧ Agrees c' r := by
  obtain ⟨c₁, h₁, ha⟩ := h.create hs hk
  obtain ⟨c₂, h₂, hb⟩ := ha.remove (e := e) (by simp [knows])
  refine ⟨c₂, ?_, fun f => ?_, fun f name => ?_⟩
  · rw [Copy.follow, List.foldlM_cons, h₁]
    exact (Copy.follow_single c₁ _).trans h₂
  · rw [hb.holds, knows, Table.contains_erase, Table.contains_insert]
    by_cases he : e = f
    · subst he
      simp [hk]
    · simp [he, knows]
  · rw [hb.get?, Store.get?_removeEntity]
    by_cases he : e = f
    · subst he
      rw [if_pos rfl, h.unknown hk]
    · rw [if_neg he]

theorem change (h : Agrees c r) {e : Entity} (hk : r.knows e = true) {row : Table String Json}
    {store : Store} (hr : ∀ name, row.get? name = store.get? e name)
    (hs : ∀ f name, e ≠ f → store.get? f name = r.store.get? f name) :
    Agrees { c with rows := c.rows.insert e row } { r with store } := by
  refine ⟨fun f => ?_, fun f name => ?_⟩
  · have hh := h.holds f
    simp only [Copy.holds, Table.contains_insert] at hh ⊢
    by_cases he : e = f
    · subst he
      simpa [knows] using hk.symm
    · simpa [he, knows] using hh
  · have hg := h.get? f name
    simp only [Copy.get?, Table.get?_insert] at hg ⊢
    by_cases he : e = f
    · subst he
      rw [if_pos rfl]
      exact hr name
    · rw [if_neg he, hs f name he, hg]

theorem update (h : Agrees c r) {e : Entity} (name : String) (v : Json)
    (hk : r.knows e = true) :
    ∃ c', c.apply (.updateComponent e name v) = some c' ∧
      Agrees c' { r with store := (r.store.insert e name v).2 } := by
  obtain ⟨row, hr, hg⟩ := h.row hk
  refine ⟨_, by rw [Copy.apply, hr, Option.map_some], h.change hk (fun d => ?_) fun f d he => ?_⟩
  · rw [Table.get?_insert, Store.get?_insert, hg]
    simp only [true_and]
  · rw [Store.get?_insert, if_neg fun hx => he hx.1]

theorem detach (h : Agrees c r) {e : Entity} {name : String} (hk : r.knows e = true)
    (hn : (r.store.get? e name).isSome = true) :
    ∃ c', c.apply (.removeComponent e name) = some c' ∧
      Agrees c' { r with store := (r.store.remove e name).2 } := by
  obtain ⟨row, hr, hg⟩ := h.row hk
  have hc : row.contains name = true := by rw [Table.contains, hg, hn]
  refine ⟨_, by rw [Copy.apply, hr, Option.bind_some, if_pos hc],
    h.change hk (fun d => ?_) fun f d he => ?_⟩
  · rw [Table.get?_erase, Store.get?_remove, hg]
    simp only [true_and]
  · rw [Store.get?_remove, if_neg fun hx => he hx.1]

theorem slot (h : Agrees c r) (s : Store) {x : Entity × String} (hk : r.knows x.1 = true) :
    ∃ c', c.follow (tellSlot s r x).1 = some c' ∧ Agrees c' (tellSlot s r x).2 := by
  rw [tellSlot, tellComponent]
  cases s.get? x.1 x.2 with
  | some v =>
    by_cases ha : (r.store.get? x.1 x.2).any (·.same v) = true
    · simp only [if_pos ha]
      exact ⟨c, rfl, h⟩
    · simp only [if_neg ha, Copy.follow_single]
      exact h.update x.2 v hk
  | none =>
    have hf : (r.store.remove x.1 x.2).1 = r.store.get? x.1 x.2 := rfl
    simp only [hf]
    by_cases hn : (r.store.get? x.1 x.2).isSome = true
    · simp only [if_pos hn, Copy.follow_single]
      exact h.detach hk hn
    -- The replica takes out a component that it does not have.
    · simp only [if_neg hn]
      refine ⟨c, rfl, h.holds, fun f name => ?_⟩
      rw [h.get?, Store.get?_remove]
      split
      · rename_i hx
        rw [← hx.1, ← hx.2]
        exact Option.not_isSome_iff_eq_none.mp hn
      · rfl

section
variable {α : Type} {tell : Replica → α → List Operation × Replica}
  {P : Copy → Replica → List α → Prop}

theorem follow_tellAll
    (hp : ∀ c r a as, P c r (a :: as) →
      ∃ c', c.follow (tell r a).1 = some c' ∧ P c' (tell r a).2 as)
    {as : List α} (h : P c r as) :
    ∃ c', c.follow (tellAll tell r as).1 = some c' ∧ P c' (tellAll tell r as).2 [] := by
  induction as generalizing c r with
  | nil => exact ⟨c, rfl, h⟩
  | cons a as ih =>
    obtain ⟨c₁, h₁, hp₁⟩ := hp c r a as h
    obtain ⟨c₂, h₂, hp₂⟩ := ih hp₁
    refine ⟨c₂, ?_, hp₂⟩
    rw [tellAll_cons, Copy.follow_append, h₁]
    exact h₂

end

theorem follow_created (h : Agrees c r) (destroyed : List Entity) {es : List Entity}
    (hes : es.Nodup) (hs : ∀ e ∈ es, e ∉ c.seen) (hk : ∀ e ∈ es, r.knows e = false) :
    ∃ c', c.follow (tellAll (tellCreated destroyed) r es).1 = some c' ∧
      Agrees c' (tellAll (tellCreated destroyed) r es).2 := by
  let P (c : Copy) (r : Replica) (es : List Entity) : Prop :=
    Agrees c r ∧ es.Nodup ∧ (∀ e ∈ es, e ∉ c.seen) ∧ ∀ e ∈ es, r.knows e = false
  have hp : ∀ c r e es, P c r (e :: es) →
      ∃ c', c.follow (tellCreated destroyed r e).1 = some c' ∧
        P c' (tellCreated destroyed r e).2 es := by
    rintro c r e es ⟨h, hes, hs, hk⟩
    obtain ⟨he, hes⟩ := List.nodup_cons.mp hes
    simp only [tellCreated]
    by_cases hd : e ∈ destroyed
    · simp only [if_pos hd]
      exact ⟨c, rfl, h, hes, fun f hf => hs f (.tail _ hf), fun f hf => hk f (.tail _ hf)⟩
    · simp only [if_neg hd, Copy.follow_single]
      obtain ⟨c', hc, ha⟩ := h.create (hs e (.head _)) (hk e (.head _))
      have hne : ∀ f ∈ es, e ≠ f := by
        rintro f hf rfl
        exact he hf
      refine ⟨c', hc, ha, hes, fun f hf => ?_, fun f hf => ?_⟩
      · rw [Copy.seen_apply hc, not_or]
        refine ⟨hs f (.tail _ hf), fun ho => hne f hf ?_⟩
        exact Operation.createEntity.inj ho
      · have hu := hk f (.tail _ hf)
        simp only [knows, Table.contains_insert] at hu ⊢
        simp [hne f hf, hu]
  obtain ⟨c', hc, ha, _⟩ := follow_tellAll hp ⟨h, hes, hs, hk⟩
  exact ⟨c', hc, ha⟩

theorem follow_slots (h : Agrees c r) (s : Store) {xs : List (Entity × String)}
    (hk : ∀ x ∈ xs, r.knows x.1 = true) :
    ∃ c', c.follow (tellAll (tellSlot s) r xs).1 = some c' ∧
      Agrees c' (tellAll (tellSlot s) r xs).2 := by
  let P (c : Copy) (r : Replica) (xs : List (Entity × String)) : Prop :=
    Agrees c r ∧ ∀ x ∈ xs, r.knows x.1 = true
  have hp : ∀ c r x xs, P c r (x :: xs) →
      ∃ c', c.follow (tellSlot s r x).1 = some c' ∧ P c' (tellSlot s r x).2 xs := by
    rintro c r x xs ⟨h, hk⟩
    obtain ⟨c', hc, ha⟩ := h.slot s (hk x (.head _))
    refine ⟨c', hc, ha, fun y hy => ?_⟩
    rw [knows, tellSlot_entities]
    exact hk y (.tail _ hy)
  obtain ⟨c', hc, ha, _⟩ := follow_tellAll hp ⟨h, hk⟩
  exact ⟨c', hc, ha⟩

theorem follow_destroyed (h : Agrees c r) {created es : List Entity} (hes : es.Nodup)
    (hs : ∀ e ∈ es, e ∈ created → e ∉ c.seen ∧ r.knows e = false)
    (hk : ∀ e ∈ es, r.knows e = true ∨ e ∈ created) :
    ∃ c', c.follow (tellAll (tellDestroyed created) r es).1 = some c' ∧
      Agrees c' (tellAll (tellDestroyed created) r es).2 := by
  let P (c : Copy) (r : Replica) (es : List Entity) : Prop :=
    Agrees c r ∧ es.Nodup ∧ (∀ e ∈ es, e ∈ created → e ∉ c.seen ∧ r.knows e = false) ∧
      ∀ e ∈ es, r.knows e = true ∨ e ∈ created
  have hp : ∀ c r e es, P c r (e :: es) →
      ∃ c', c.follow (tellDestroyed created r e).1 = some c' ∧
        P c' (tellDestroyed created r e).2 es := by
    rintro c r e es ⟨h, hes, hs, hk⟩
    obtain ⟨he, hes⟩ := List.nodup_cons.mp hes
    have hne : ∀ f ∈ es, e ≠ f := by
      rintro f hf rfl
      exact he hf
    simp only [tellDestroyed]
    by_cases hd : e ∈ created
    · simp only [if_pos hd]
      obtain ⟨hes', hek⟩ := hs e (.head _) hd
      obtain ⟨c', hc, ha⟩ := h.flash hes' hek
      refine ⟨c', hc, ha, hes, fun f hf hfc => ?_, fun f hf => hk f (.tail _ hf)⟩
      obtain ⟨hfs, hfk⟩ := hs f (.tail _ hf) hfc
      refine ⟨?_, hfk⟩
      rw [Copy.seen_follow hc]
      simp [hfs, Ne.symm (hne f hf)]
    · have hek := (hk e (.head _)).resolve_right hd
      simp only [if_neg hd, if_pos hek, Copy.follow_single]
      obtain ⟨c', hc, ha⟩ := h.remove hek
      refine ⟨c', hc, ha, hes, fun f hf hfc => ?_, fun f hf => ?_⟩
      · obtain ⟨hfs, hfk⟩ := hs f (.tail _ hf) hfc
        rw [Copy.seen_apply hc]
        simp only [knows, Table.contains_erase] at hfk ⊢
        simp [hfs, hfk]
      · have hu := hk f (.tail _ hf)
        simp only [knows, Table.contains_erase] at hu ⊢
        simpa [hne f hf] using hu
  obtain ⟨c', hc, ha, _⟩ := follow_tellAll hp ⟨h, hes, hs, hk⟩
  exact ⟨c', hc, ha⟩

end Agrees

namespace Tracked

variable {s : Scene} {r : Replica} {c : Copy}

theorem created_of_mem (h : Tracked s r) {e : Entity}
    (he : .createEntity e ∈ (r.sync s.changes s.store).1) : e ∈ s.changes.created := by
  rw [h.sync_ops, List.mem_append, List.mem_append] at he
  obtain (he | he) | he := he
  · obtain ⟨f, hf, hfe⟩ := List.mem_map.mp he
    obtain rfl := Operation.createEntity.inj hfe
    exact (List.mem_filter.mp hf).1
  · obtain ⟨x, _, hx⟩ := List.mem_filterMap.mp he
    cases change?_slot hx
  · obtain ⟨f, _, hf⟩ := List.mem_flatMap.mp he
    rw [farewell] at hf
    split at hf
    · rename_i hc
      simp at hf
      exact hf ▸ hc
    · simp at hf

/-- A strict host can carry out all that it is told of a scene. -/
theorem follow (h : Tracked s r) (ha : Agrees c r)
    (hs : ∀ e ∈ s.changes.created, e ∉ c.seen) :
    ∃ c', c.follow (r.sync s.changes s.store).1 = some c' ∧
      Agrees c' (r.sync s.changes s.store).2 := by
  obtain ⟨c₁, h₁, ha₁⟩ := ha.follow_created s.changes.destroyed h.nodup_created hs
    fun e he => h.created_unknown he
  have hg : ∀ x ∈ s.due, (greeted s r).knows x.1 = true := fun x hx =>
    (h.greeted_alive.mpr (List.mem_filter.mp hx).2).2
  obtain ⟨c₂, h₂, ha₂⟩ := ha₁.follow_slots s.store hg
  have hf : ∀ e ∈ s.changes.destroyed, e ∈ s.changes.created →
      e ∉ c₂.seen ∧ (informed s r).knows e = false := by
    intro e hd hc
    constructor
    · have ho : .createEntity e ∉ (tellAll (tellSlot s.store) (greeted s r) s.due).1 := by
        rw [tellSlots_ops _ _ h.nodup_due, List.mem_filterMap]
        rintro ⟨x, _, hx⟩
        cases change?_slot hx
      rw [Copy.seen_follow h₂, Copy.seen_follow h₁, tellCreated_ops, not_or, not_or]
      refine ⟨⟨hs e hc, fun he => ?_⟩, ho⟩
      obtain ⟨f, hf, hfe⟩ := List.mem_map.mp he
      obtain rfl := Operation.createEntity.inj hfe
      exact of_decide_eq_true (List.mem_filter.mp hf).2 hd
    · rw [informed_knows, ← Bool.not_eq_true, greeted, tellCreated_knows, h.created_unknown hc]
      rintro (hk | ⟨_, hn⟩)
      · cases hk
      · exact hn hd
  obtain ⟨c₃, h₃, ha₃⟩ := ha₂.follow_destroyed h.nodup_destroyed hf fun e he => h.farewells he
  refine ⟨c₃, ?_, ?_⟩
  · rw [h.sync_eq, Copy.follow_append, Copy.follow_append, h₁, Option.bind_some,
      greeted, h₂, Option.bind_some]
    exact h₃
  · rw [h.sync_eq]
    exact ha₃

end Tracked

end Diorama
