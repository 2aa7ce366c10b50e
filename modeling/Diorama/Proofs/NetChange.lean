import Diorama.Proofs.Refinement

namespace Diorama

variable {κ σ : Type}

namespace Replica

theorem change?_update {s known : Store} {e : Entity} {name : String} {v : Json} :
    change? s known (e, name) = some (.updateComponent e name v) ↔
      s.get? e name = some v ∧ ∀ u, known.get? e name = some u → u.same v = false := by
  rw [change?]
  cases s.get? e name with
  | none =>
    simp only [Option.ite_none_right_eq_some, reduceCtorEq, false_and, iff_false, not_and]
    rintro _ ⟨⟩
  | some w =>
    simp only [Option.ite_none_left_eq_some, Option.some.injEq, Operation.updateComponent.injEq,
      true_and]
    constructor
    · rintro ⟨hk, rfl⟩
      refine ⟨rfl, fun u hu => ?_⟩
      rw [hu] at hk
      exact Bool.not_eq_true _ ▸ hk
    · rintro ⟨rfl, hk⟩
      refine ⟨fun ha => ?_, rfl⟩
      obtain ⟨u, hu, hs⟩ := (Option.any_eq_true ..).mp ha
      rw [hk u hu] at hs
      cases hs

theorem change?_remove {s known : Store} {e : Entity} {name : String} :
    change? s known (e, name) = some (.removeComponent e name) ↔
      s.get? e name = none ∧ (known.get? e name).isSome = true := by
  rw [change?]
  cases s.get? e name with
  | none => simp only [Option.ite_none_right_eq_some, true_and, and_true]
  | some w => simp

end Replica

namespace Session

/-- Every batch sets exactly the components of living entities that the host does not have as they
are, and takes off exactly those that only the host still has, each once. -/
theorem batch_is_net_change {b : Behaviour κ σ} {config : Config} {types : Registry} {memory : σ}
    {moves : List (Move κ σ)} {g g' : History κ} {w : World κ} {batch : Batch}
    {result : Except Failure (Option Flushed)}
    (hs : (start config ({ types } : World κ) memory).history b moves =
      g ++ .flush w batch result :: g') :
    ∃ c, Copy.follow {} (g.sent.flatMap (·.ops)) = some c ∧
      (∀ e, w.isAlive e = true →
        (∀ name v, .updateComponent e name v ∈ batch.ops ↔
          w.store.get? e name = some v ∧ ∀ u, c.get? e name = some u → u.same v = false) ∧
        ∀ name, .removeComponent e name ∈ batch.ops ↔
          w.store.get? e name = none ∧ (c.get? e name).isSome = true) ∧
      (∀ e, w.isAlive e = false → ∀ op ∈ batch.ops, op.entity = e → op.component? = none) ∧
      (batch.ops.filterMap Operation.slot?).Nodup := by
  obtain ⟨m, hg, hp, rfl, ho⟩ := told_at hs
  obtain ⟨c, hc, hf⟩ := hg.followed
  have ha := (hf (by simp [hp])).agrees
  have ht := hg.tracked
  rw [← ho]
  refine ⟨c, hc, fun e hl => ⟨fun name v => ?_, fun name => ?_⟩, fun e hd op hop he => ?_, ?_⟩
  · rw [ha.get?]
    exact (ht.mem_sync_alive (x := (e, name)) rfl hl).trans Replica.change?_update
  · rw [ha.get?]
    exact (ht.mem_sync_alive (x := (e, name)) rfl hl).trans Replica.change?_remove
  · by_contra hn
    have hx : ∃ x, op.slot? = some x ∧ x.1 = e := by
      cases op with
      | createEntity f => exact absurd rfl hn
      | removeEntity f => exact absurd rfl hn
      | updateComponent f name v => exact ⟨(f, name), rfl, he⟩
      | removeComponent f name => exact ⟨(f, name), rfl, he⟩
    obtain ⟨x, hx, rfl⟩ := hx
    have hl := (List.mem_filter.mp ((ht.mem_sync hx).mp hop).1).2
    exact Bool.false_ne_true (hd.symm.trans hl)
  · exact ht.nodup_due.sublist ht.slots_sync

theorem batch_is_net_change_attached :
    let s := start {} ({ types := Registry.declare ∅ { name := "Tag" } } : World Unit) ()
    let s' := s.after .idle [.act .create, .act (.attach ⟨1⟩ "Tag" .null)]
    ∃ v, .updateComponent ⟨1⟩ "Tag" v ∈ (s'.worked .idle ⟨0⟩).batch.ops := by
  intro s s'
  have hk : (s'.tick .idle ⟨0⟩).1.isOk = true := by decide +kernel
  obtain ⟨c, hc, ha, _⟩ := batch_is_net_change (history_tick hk)
  have hn : (s.history .idle [.act .create, .act (.attach ⟨1⟩ "Tag" .null)]
      ++ (.begin :: s'.link.toScene.waiting.map .hear
        ++ s'.workDeeds .idle ⟨0⟩) : History Unit).sent.isEmpty = true := by
    decide +kernel
  rw [List.isEmpty_iff.mp hn] at hc
  obtain rfl : c = {} := (Option.some.inj hc).symm
  have hs : ((s'.worked .idle ⟨0⟩).world.store.get? ⟨1⟩ "Tag").isSome = true := by decide +kernel
  obtain ⟨v, hv⟩ := Option.isSome_iff_exists.mp hs
  refine ⟨v, ((ha ⟨1⟩ (by decide +kernel)).1 "Tag" v).mpr ⟨hv, fun u hu => ?_⟩⟩
  cases hu

end Session

end Diorama
