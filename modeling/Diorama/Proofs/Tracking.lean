import Diorama.Proofs.Edits
import Diorama.Proofs.Touched

namespace Diorama

/-- Two components are the same to the host. -/
def alike : Option Json → Option Json → Bool
  | some u, some v => u.same v
  | none, none => true
  | _, _ => false

theorem alike_refl (u : Option Json) : alike u u = true := by
  cases u with
  | none => rfl
  | some u => exact Json.same_refl u

/-- A scene whose noted changes make up for all that a replica does not know of it. -/
structure Tracked (s : Scene) (r : Replica) : Prop where
  known_lt {e : Entity} : r.knows e = true → e.id < s.entities.next
  created_lt {e : Entity} : e ∈ s.changes.created → e.id < s.entities.next
  alive_iff {e : Entity} : s.entities.isAlive e = true ↔
    (r.knows e = true ∨ e ∈ s.changes.created) ∧ e ∉ s.changes.destroyed
  created_unknown {e : Entity} : e ∈ s.changes.created → r.knows e = false
  destroyed_once {e : Entity} : e ∈ s.changes.destroyed →
    r.knows e = true ∨ e ∈ s.changes.created
  nodup_created : s.changes.created.Nodup
  nodup_destroyed : s.changes.destroyed.Nodup
  order : ∃ xs, s.changes.touched = Changes.grouped xs
  stored {e : Entity} {c : String} : (s.store.get? e c).isSome = true →
    s.entities.isAlive e = true
  mirrored {e : Entity} {c : String} : (r.store.get? e c).isSome = true → r.knows e = true
  covered {e : Entity} {c : String} : s.entities.isAlive e = true →
    alike (s.store.get? e c) (r.store.get? e c) = false →
    (e, c) ∈ Changes.slots s.changes.touched

namespace Changes

theorem touchAll_eq (c : Changes) (e : Entity) (names : List String) :
    names.foldl (·.touch e ·) c =
      { c with touched := names.foldl (fun ts name => touchIn e name ts) c.touched } := by
  induction names generalizing c with
  | nil => rfl
  | cons name names ih => exact ih (c.touch e name)

theorem mem_slots_touchAll {e : Entity} {names : List String} {ts : List (Entity × List String)}
    {x : Entity × String} (h : x ∈ slots ts) :
    x ∈ slots (names.foldl (fun ts name => touchIn e name ts) ts) := by
  induction names generalizing ts with
  | nil => exact h
  | cons name names ih => exact ih (mem_slots_touchIn.mpr (.inl h))

theorem touchAll_grouped (xs : List (Entity × String)) (e : Entity) (names : List String) :
    names.foldl (fun ts name => touchIn e name ts) (grouped xs) =
      grouped (xs ++ names.map (e, ·)) := by
  induction names generalizing xs with
  | nil => rw [List.map_nil, List.append_nil, List.foldl_nil]
  | cons name names ih =>
    rw [List.foldl_cons, touchIn_grouped, ih, List.append_assoc]
    rfl

end Changes

namespace Tracked

variable {s : Scene} {r : Replica}

theorem fresh : Tracked {} {} where
  known_lt hk := absurd hk Bool.false_ne_true
  created_lt he := absurd he List.not_mem_nil
  alive_iff := ⟨fun ha => absurd ha Bool.false_ne_true, fun h =>
    h.1.elim (fun hk => absurd hk Bool.false_ne_true) fun he => absurd he List.not_mem_nil⟩
  created_unknown he := absurd he List.not_mem_nil
  destroyed_once he := absurd he List.not_mem_nil
  nodup_created := .nil
  nodup_destroyed := .nil
  order := ⟨[], rfl⟩
  stored hs := absurd hs Bool.false_ne_true
  mirrored hs := absurd hs Bool.false_ne_true
  covered ha := absurd ha Bool.false_ne_true

theorem alive_lt (h : Tracked s r) {e : Entity} (ha : s.entities.isAlive e = true) :
    e.id < s.entities.next :=
  (h.alive_iff.mp ha).1.elim h.known_lt h.created_lt

theorem next_new (h : Tracked s r) : ⟨s.entities.next⟩ ∉ s.changes.created :=
  fun hc => Nat.lt_irrefl _ (h.created_lt hc)

theorem next_unknown (h : Tracked s r) : r.knows ⟨s.entities.next⟩ = false := by
  rw [← Bool.not_eq_true]
  exact fun hk => Nat.lt_irrefl _ (h.known_lt hk)

theorem create (h : Tracked s r) : Tracked s.create r := by
  have hn : ⟨s.entities.next⟩ ∉ s.changes.destroyed := fun hd =>
    (h.destroyed_once hd).elim (by simp [h.next_unknown]) h.next_new
  have hc : s.create.changes.created = s.changes.created ++ [⟨s.entities.next⟩] :=
    note_new h.next_new
  have ha (e : Entity) := s.entities.isAlive_create e
  refine ⟨fun hk => ?_, fun he => ?_, fun {e} => ?_, fun he => ?_, fun hd => ?_, ?_,
    h.nodup_destroyed, h.order, fun hs => ?_, h.mirrored, fun {e c} hl hd => ?_⟩
  · exact Nat.lt_succ_of_lt (h.known_lt hk)
  · rw [hc, List.mem_append, List.mem_singleton] at he
    obtain he | rfl := he
    · exact Nat.lt_succ_of_lt (h.created_lt he)
    · exact Nat.lt_succ_self _
  · rw [hc, List.mem_append, List.mem_singleton]
    have hi := h.alive_iff (e := e)
    simp only [Scene.create, ha, Bool.or_eq_true, decide_eq_true_eq, hi]
    by_cases he : ⟨s.entities.next⟩ = e
    · subst he
      simp only [true_or, or_true, true_and, true_iff]
      exact hn
    · simp only [he, Ne.symm he, false_or, or_false]
      rfl
  · rw [hc, List.mem_append, List.mem_singleton] at he
    obtain he | rfl := he
    · exact h.created_unknown he
    · exact h.next_unknown
  · rw [hc, List.mem_append]
    exact (h.destroyed_once hd).imp_right .inl
  · exact nodup_note h.nodup_created
  · simp only [Scene.create, ha, h.stored hs, Bool.or_true]
  · simp only [Scene.create, ha, Bool.or_eq_true, decide_eq_true_eq] at hl
    obtain rfl | hl := hl
    -- Of an entity that is new neither side has a component.
    · have hs : s.store.get? ⟨s.entities.next⟩ c = none := by
        rw [← Option.not_isSome_iff_eq_none]
        exact fun hs => Nat.lt_irrefl _ (h.alive_lt (h.stored hs))
      have hm : r.store.get? ⟨s.entities.next⟩ c = none := by
        rw [← Option.not_isSome_iff_eq_none]
        exact fun hm => Nat.lt_irrefl _ (h.known_lt (h.mirrored hm))
      simp only [Scene.create, hs, hm, alike, Bool.true_eq_false] at hd
    · exact h.covered hl hd

theorem destroy (h : Tracked s r) {e : Entity} (ha : s.entities.isAlive e = true) :
    Tracked (s.destroy e) r := by
  obtain ⟨hk, hd⟩ := h.alive_iff.mp ha
  have hc : (s.destroy e).changes =
      { s.changes with
        destroyed := note e s.changes.destroyed
        touched := (s.store.names e).foldl (fun ts name => Changes.touchIn e name ts)
          s.changes.touched } := by
    rw [Scene.destroy, Changes.touchAll_eq]
    rfl
  have hl (f : Entity) : (s.destroy e).entities.isAlive f = true ↔
      e ≠ f ∧ s.entities.isAlive f = true := by
    simp only [Scene.destroy, Entities.isAlive_erase, Bool.and_eq_true, decide_eq_true_eq]
  have hs (f : Entity) (c : String) :
      (s.destroy e).store.get? f c = if e = f then none else s.store.get? f c :=
    s.store.get?_removeEntity e f c
  refine ⟨h.known_lt, fun he => ?_, fun {f} => ?_, fun he => ?_, fun hf => ?_, ?_, ?_, ?_,
    fun {f c} hf => ?_, h.mirrored, fun {f c} hf hn => ?_⟩
  · rw [hc] at he
    exact h.created_lt he
  · rw [hc, hl, h.alive_iff, mem_note]
    constructor
    · rintro ⟨hne, hf, hg⟩
      exact ⟨hf, fun he => he.elim hg fun he => hne he.symm⟩
    · rintro ⟨hf, hg⟩
      exact ⟨fun he => hg (.inr he.symm), hf, fun he => hg (.inl he)⟩
  · rw [hc] at he
    exact h.created_unknown he
  · rw [hc, mem_note] at hf
    rw [hc]
    obtain hf | rfl := hf
    · exact h.destroyed_once hf
    · exact hk
  · rw [hc]
    exact h.nodup_created
  · rw [hc]
    exact nodup_note h.nodup_destroyed
  · obtain ⟨xs, hx⟩ := h.order
    rw [hc, hx]
    exact ⟨_, Changes.touchAll_grouped xs e (s.store.names e)⟩
  · rw [hs] at hf
    by_cases hne : e = f
    · rw [if_pos hne] at hf
      cases hf
    · rw [if_neg hne] at hf
      exact (hl f).mpr ⟨hne, h.stored hf⟩
  · obtain ⟨hne, hf⟩ := (hl f).mp hf
    rw [hs, if_neg hne] at hn
    rw [hc]
    exact Changes.mem_slots_touchAll (h.covered hf hn)

theorem touch (h : Tracked s r) {e : Entity} {c : String} {store : Store}
    (ha : s.entities.isAlive e = true)
    (hs : ∀ f d, ¬ (e = f ∧ c = d) → store.get? f d = s.store.get? f d) :
    Tracked { s with store, changes := s.changes.touch e c } r := by
  refine ⟨h.known_lt, h.created_lt, h.alive_iff, h.created_unknown, h.destroyed_once,
    h.nodup_created, h.nodup_destroyed, ?_, fun {f d} hf => ?_, h.mirrored, fun {f d} hf hn => ?_⟩
  · obtain ⟨xs, hx⟩ := h.order
    refine ⟨xs ++ [(e, c)], ?_⟩
    rw [← Changes.touchIn_grouped, ← hx]
    rfl
  · by_cases hx : e = f ∧ c = d
    · exact hx.1 ▸ ha
    · exact h.stored (hs f d hx ▸ hf)
  · apply Changes.mem_slots_touchIn.mpr
    by_cases hx : e = f ∧ c = d
    · exact .inr (by rw [hx.1, hx.2])
    · exact .inl (h.covered hf (hs f d hx ▸ hn))

theorem put (h : Tracked s r) {e : Entity} {c : String} (v : Json)
    (ha : s.entities.isAlive e = true) : Tracked (s.put e c v) r :=
  h.touch ha fun f d hx => by rw [Store.get?_insert, if_neg hx]

theorem detach (h : Tracked s r) {e : Entity} {c : String}
    (ha : s.entities.isAlive e = true) : Tracked (s.detach e c) r :=
  h.touch ha fun f d hx => by rw [Store.get?_remove, if_neg hx]

theorem edit (h : Tracked s r) {s' : Scene} {created? destroyed? : Option Entity}
    {touched? : Option (Entity × String)} (he : s.Edit created? destroyed? touched? s') :
    Tracked s' r := by
  cases he with
  | create => exact h.create
  | destroy ha => exact h.destroy ha
  | put v ha => exact h.put v ha
  | detach ha => exact h.detach ha
  | nothing => exact h

theorem dead_store (h : Tracked s r) {e : Entity} (ha : s.entities.isAlive e = false)
    (c : String) : s.store.get? e c = none := by
  rw [← Option.not_isSome_iff_eq_none]
  intro hs
  rw [h.stored hs] at ha
  cases ha

theorem unknown_store (h : Tracked s r) {e : Entity} (hk : r.knows e = false) (c : String) :
    r.store.get? e c = none := by
  rw [← Option.not_isSome_iff_eq_none]
  intro hs
  rw [h.mirrored hs] at hk
  cases hk

theorem settled (h : Tracked s r) (hc : s.changes = {}) :
    (∀ e, r.knows e = s.entities.isAlive e) ∧
      ∀ e c, alike (s.store.get? e c) (r.store.get? e c) = true := by
  have hk (e : Entity) : r.knows e = s.entities.isAlive e := by
    have hi := h.alive_iff (e := e)
    rw [hc] at hi
    rw [Bool.eq_iff_iff, hi]
    simp
  refine ⟨hk, fun e c => ?_⟩
  cases ha : s.entities.isAlive e with
  | true =>
    by_contra hn
    have hs := h.covered ha (Bool.not_eq_true _ ▸ hn)
    rw [hc] at hs
    cases hs
  | false =>
    rw [h.dead_store ha, h.unknown_store ((hk e).trans ha)]
    rfl

end Tracked

end Diorama
