import Diorama.Proofs.BatchOrder
import Diorama.Proofs.Replay

namespace Diorama

variable {κ σ : Type}

/-- What the host has after something that happened. Even if a batch does not get through, it counts
as told. -/
def Replica.next (r : Replica) : Happening κ → Replica
  | .flush w .. => (r.sync w.changes w.store).2
  | _ => r

def History.replica (h : History κ) : Replica := h.foldl Replica.next {}

theorem History.replica_concat (h : History κ) (x : Happening κ) :
    replica (h ++ [x]) = h.replica.next x := by
  rw [replica, List.foldl_append]
  rfl

/-- Two worlds have the same entities, components and types. -/
structure World.Matches (w w' : World κ) : Prop where
  scene : w.scene = w'.scene
  types : w.types = w'.types

theorem World.Matches.perform {w w' : World κ} (h : w.Matches w') (a : Action κ) :
    (w.perform a).2.Matches (w'.perform a).2 := by
  obtain ⟨entities, store, types, changes, q, y, z, t⟩ := w
  obtain ⟨entities', store', types', changes', q', y', z', t'⟩ := w'
  obtain ⟨hs, ht⟩ := h
  obtain ⟨rfl, rfl, rfl⟩ := Scene.mk.inj hs
  obtain rfl : types = types' := ht
  have hm : Matches ⟨entities, store, types, changes, q, y, z, t⟩
      ⟨entities, store, types, changes, q', y', z', t'⟩ := ⟨rfl, rfl⟩
  cases a with
  | destroy e => exact settle_bind hm fun _ => ⟨rfl, rfl⟩
  | attach e c v => exact settle_bind hm fun _ => settle_bind hm fun _ => ⟨rfl, rfl⟩
  | mutate e c f =>
    exact settle_bind hm fun _ => settle_bind hm fun _ => settle_bind hm fun _ => ⟨rfl, rfl⟩
  | detach e c =>
    simp only [World.perform, detach, bind, Except.bind]
    cases entities.ensureAlive e with
    | error f => exact ⟨rfl, rfl⟩
    | ok _ => cases (store.remove e c).1.isSome <;> exact ⟨rfl, rfl⟩
  | _ => exact ⟨rfl, rfl⟩

namespace Moment

variable {m m' : Moment κ} {g h : History κ} {x : Happening κ} {types : Registry} {e : Entity}

theorem Step.replica_next (hx : Step m x m') : m'.replica = m.replica.next x := by
  cases hx <;> rfl

theorem Trail.replica_eq (hh : Trail (.fresh types) h m) : m.replica = h.replica := by
  induction hh with
  | nil => rfl
  | snoc _ hx ih => rw [hx.replica_next, ih, History.replica_concat]

theorem Step.matches (hx : Step m x m') (timeout : Nat) {n : Snapshot κ}
    (hn : m.world.Matches n.world) : m'.world.Matches (n.next timeout x).world := by
  cases hx with
  | act a _ => exact hn.perform a
  | flush seq result hp hi hl hr =>
    exact ⟨congrArg (fun s : Scene => { s with changes := {} }) hn.scene, hn.types⟩
  | @answer _ _ o => cases o <;> exact ⟨hn.scene, hn.types⟩
  | _ => exact ⟨hn.scene, hn.types⟩

theorem Trail.matches (hh : Trail (.fresh types) h m) (timeout : Nat) :
    m.world.Matches (h.replay timeout types).world := by
  induction hh with
  | nil => exact ⟨rfl, rfl⟩
  | snoc _ hx ih =>
    rw [History.replay_concat]
    exact hx.matches timeout ih

end Moment

theorem Scene.Edit.not_created {s s' : Scene} {created? destroyed? : Option Entity}
    {touched? : Option (Entity × String)} (h : s.Edit created? destroyed? touched? s') {e : Entity}
    (he : e.id < s.entities.next ∧ e ∉ s.changes.created) :
    e.id < s'.entities.next ∧ e ∉ s'.changes.created := by
  cases h with
  | create =>
    refine ⟨Nat.lt_succ_of_lt he.1, ?_⟩
    rw [Scene.create, Changes.create, mem_note, not_or]
    refine ⟨he.2, ?_⟩
    rintro rfl
    exact Nat.lt_irrefl _ he.1
  | destroy _ =>
    rw [Scene.destroy, Changes.touchAll_eq]
    exact he
  | put _ _ => exact he
  | detach _ => exact he
  | nothing => exact he

theorem Tracked.ascending_edit {s s' : Scene} {r : Replica} {created? destroyed? : Option Entity}
    {touched? : Option (Entity × String)} (ht : Tracked s r)
    (he : s.Edit created? destroyed? touched? s') (ha : s.changes.created.Pairwise (· < ·)) :
    s'.changes.created.Pairwise (· < ·) := by
  rw [ht.created_edit he]
  cases he with
  | create =>
    refine List.pairwise_append.mpr ⟨ha, List.pairwise_singleton .., fun e he f hf => ?_⟩
    obtain rfl := List.mem_singleton.mp hf
    exact ht.created_lt he
  | _ => rwa [Option.toList_none, List.append_nil]

namespace Moment

variable {m m' : Moment κ} {g h : History κ} {types : Registry} {e : Entity}

theorem Trail.not_created (hh : Trail m h m') (ht : Tracked m.world.scene m.replica)
    (hk : m.replica.knows e = true) : e ∉ m'.world.changes.created := by
  suffices hs : e.id < m'.world.scene.entities.next ∧ e ∉ m'.world.scene.changes.created from hs.2
  induction hh with
  | nil =>
    refine ⟨ht.known_lt hk, fun he => ?_⟩
    rw [ht.created_unknown he] at hk
    cases hk
  | snoc _ hx ih =>
    obtain hq | ⟨seq, result, _, hf⟩ := hx.quiet_or_told
    · exact hq.edit.not_created ih
    · rw [hf.scene]
      exact ⟨ih.1, List.not_mem_nil⟩

theorem Trail.ascending (hh : Trail (.fresh types) h m) :
    m.world.changes.created.Pairwise (· < ·) := by
  suffices hs : m.world.scene.changes.created.Pairwise (· < ·) from hs
  induction hh with
  | nil => exact .nil
  | snoc hm hx ih =>
    obtain hq | ⟨seq, result, _, hf⟩ := hx.quiet_or_told
    · exact hm.tracked.ascending_edit hq.edit ih
    · rw [hf.scene]
      exact .nil

end Moment

namespace Session

/-- At every point of a run all that the host does not know is noted as a change. A living entity is
known to the host, or else it is noted as new; what is known to the host and does not live is noted
as gone; the new entities stand in ascending order, and the host has not known them at any point
before; and a component of a living entity of which the host does not have the value is noted as
touched. -/
theorem backlog_is_complete (b : Behaviour κ σ) (config : Config) (types : Registry) (memory : σ)
    (moves : List (Move κ σ)) (g g' : History κ)
    (hg : (start config ({ types } : World κ) memory).history b moves = g ++ g') :
    let u := (start config ({ types } : World κ) memory).after b moves
    let w := (g.replay config.queryTimeoutTicks types).world
    let r := g.replica
    (∀ e, w.isAlive e = true →
      (r.knows e = true ∨ e ∈ w.changes.created) ∧
        ¬ (r.knows e = true ∧ e ∈ w.changes.created)) ∧
    (∀ e, r.knows e = true → w.isAlive e = false → e ∈ w.changes.destroyed) ∧
    (w.changes.created.Pairwise (· < ·) ∧
      ∀ e ∈ w.changes.created, ∀ p : History κ, p <+: g → p.replica.knows e = false) ∧
    (∀ e c, w.isAlive e = true → alike (w.store.get? e c) (r.store.get? e c) = false →
      (e, c) ∈ Changes.slots w.changes.touched) ∧
    (∀ a reply g'', g' = .act a reply :: g'' → reply = (w.perform a).1) ∧
    (∀ w' batch result g'', g' = .flush w' batch result :: g'' →
      w'.scene = w.scene ∧ batch.ops = (r.sync w'.changes w'.store).1) ∧
    (g' = [] → u.world = w ∧ u.replica = r) := by
  intro u w r
  obtain ⟨hf, hu⟩ := run_replayed b config types memory moves
  have hh := start_trail b config types memory moves
  rw [hg] at hf hu hh
  obtain ⟨m, hm, _⟩ := hh.split g g' rfl
  have hw : m.world.scene = w.scene := (hm.matches config.queryTimeoutTicks).scene
  have hr : m.replica = r := hm.replica_eq
  have hc : m.world.changes.created = w.changes.created := congrArg (·.changes.created) hw
  have ht := hm.tracked
  rw [hw, hr] at ht
  have hl (e : Entity) : w.isAlive e = true ↔
      (r.knows e = true ∨ e ∈ w.changes.created) ∧ e ∉ w.changes.destroyed := ht.alive_iff
  refine ⟨fun e ha => ⟨((hl e).mp ha).1, fun hn => ?_⟩, fun e hk ha => ?_,
    ⟨hc ▸ hm.ascending, fun e he p hp => ?_⟩,
    fun e c ha hd => ht.covered ha hd, fun a reply g'' he => ?_, fun w' batch result g'' he => ?_,
    fun he => ?_⟩
  · rw [ht.created_unknown hn.2] at hn
    cases hn.1
  · by_contra hd
    rw [(hl e).mpr ⟨.inl hk, hd⟩] at ha
    cases ha
  · obtain ⟨q, rfl⟩ := hp
    obtain ⟨m₁, hp, hq⟩ := hm.split p q rfl
    rw [← hp.replica_eq, ← Bool.not_eq_true]
    exact fun hk => hq.not_created hp.tracked hk (hc ▸ he)
  · rw [he] at hf
    exact hf.admits
  · rw [he] at hg
    obtain ⟨m', hm', _, rfl, ho⟩ := told_at hg
    refine ⟨(hm'.matches config.queryTimeoutTicks).scene, ?_⟩
    rw [← ho, hm'.replica_eq]
  · subst he
    rw [List.append_nil] at hu hh
    exact ⟨hu.world.symm, hh.replica_eq⟩

/-- In the second tick a system takes off a component that the host has, and goes on to make an
entity. -/
theorem backlog_is_complete_midway :
    let b : Behaviour Unit Unit := fun _ _ _ =>
      .act (.detach ⟨1⟩ "Tag") fun _ => .act .create fun _ => .finish () () .returned
    let types := Registry.declare ∅ { name := "Tag" }
    let h := (start {} ({ types } : World Unit) ()).history b [.act .create,
      .act (.attach ⟨1⟩ "Tag" .null), .tick ⟨0⟩, .act (.register ⟨"a", 0, ()⟩), .tick ⟨0⟩]
    let g : History Unit := h.take 15
    let changes := (g.replay ({} : Config).queryTimeoutTicks types).world.changes
    g.replica.knows ⟨1⟩ = true ∧ ⟨1⟩ ∉ changes.created ∧
      (⟨1⟩, "Tag") ∈ Changes.slots changes.touched ∧
      g.replica.knows ⟨2⟩ = false ∧ ⟨2⟩ ∈ changes.created := by
  intro b types h g
  have hg : h = g ++ h.drop 15 := (List.take_append_drop 15 h).symm
  obtain ⟨ha, _, ⟨_, hc⟩, hs, _⟩ := backlog_is_complete b {} types () _ g _ hg
  have hl : (g.replay ({} : Config).queryTimeoutTicks types).world.isAlive ⟨1⟩ = true := by
    decide +kernel
  have hk : g.replica.knows ⟨1⟩ = true := by decide +kernel
  have hd : alike ((g.replay ({} : Config).queryTimeoutTicks types).world.store.get? ⟨1⟩ "Tag")
      (g.replica.store.get? ⟨1⟩ "Tag") = false := by decide +kernel
  have hn : ⟨2⟩ ∈ (g.replay ({} : Config).queryTimeoutTicks types).world.changes.created := by
    decide +kernel
  exact ⟨hk, fun hc => (ha ⟨1⟩ hl).2 ⟨hk, hc⟩, hs ⟨1⟩ "Tag" hl hd, hc ⟨2⟩ hn g (List.prefix_refl g),
    hn⟩

end Session

end Diorama
