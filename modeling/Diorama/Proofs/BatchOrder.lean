import Diorama.Proofs.Refinement

namespace Diorama

variable {κ σ : Type}

namespace Operation

def created? : Operation → Option Entity
  | .createEntity e => some e
  | _ => none

def removed? : Operation → Option Entity
  | .removeEntity e => some e
  | _ => none

end Operation

def Changes.standing (c : Changes) (ts : List (Entity × List String)) :
    List (Entity × List String) :=
  ts.filter fun t => t.1 ∉ c.destroyed

namespace Changes

theorem standing_touch {c : Changes} {e : Entity} (he : e ∉ c.destroyed) (name : String)
    (ts : List (Entity × List String)) :
    c.standing (touchIn e name ts) = touchIn e name (c.standing ts) := by
  rw [standing, filter_touchIn (fun f => decide (f ∉ c.destroyed)), if_pos (decide_eq_true he)]
  rfl

theorem standing_touchAll {c : Changes} {e : Entity} (he : e ∈ c.destroyed)
    (names : List String) (ts : List (Entity × List String)) :
    c.standing (names.foldl (fun ts name => touchIn e name ts) ts) = c.standing ts := by
  induction names generalizing ts with
  | nil => rfl
  | cons name names ih =>
    have hp : ¬ decide (e ∉ c.destroyed) = true := by simpa using he
    rw [List.foldl_cons, ih, standing, filter_touchIn (fun f => decide (f ∉ c.destroyed)),
      if_neg hp]
    rfl

theorem standing_destroy (c : Changes) (e : Entity) (ts : List (Entity × List String)) :
    (c.destroy e).standing ts = (c.standing ts).filter fun t => t.1 ≠ e := by
  rw [standing, standing, List.filter_filter]
  apply List.filter_congr
  intro t ht
  rw [destroy, Bool.eq_iff_iff]
  simp only [mem_note, not_or, decide_eq_true_eq, Bool.and_eq_true]
  exact And.comm

end Changes

namespace Tracked

variable {s s' : Scene} {r : Replica} {created? destroyed? : Option Entity}
  {touched? : Option (Entity × String)}

theorem created_edit (ht : Tracked s r) (he : s.Edit created? destroyed? touched? s') :
    s'.changes.created = s.changes.created ++ created?.toList := by
  cases he with
  | create => exact note_new ht.next_new
  | destroy ha =>
    rw [Scene.destroy, Changes.touchAll_eq]
    exact (List.append_nil _).symm
  | _ => exact (List.append_nil _).symm

theorem destroyed_edit (ht : Tracked s r) (he : s.Edit created? destroyed? touched? s') :
    s'.changes.destroyed = s.changes.destroyed ++ destroyed?.toList := by
  cases he with
  | destroy ha =>
    rw [Scene.destroy, Changes.touchAll_eq]
    exact note_new (ht.alive_iff.mp ha).2
  | _ => exact (List.append_nil _).symm

theorem standing_edit (ht : Tracked s r) (he : s.Edit created? destroyed? touched? s')
    {xs : List (Entity × String)}
    (hx : s.changes.standing s.changes.touched = s.changes.standing (Changes.grouped xs)) :
    s'.changes.standing s'.changes.touched =
      s'.changes.standing (Changes.grouped (xs ++ touched?.toList)) := by
  have touch {e : Entity} (c : String) (ha : s.entities.isAlive e = true) :
      s.changes.standing (Changes.touchIn e c s.changes.touched) =
        s.changes.standing (Changes.grouped (xs ++ [(e, c)])) := by
    have hd := (ht.alive_iff.mp ha).2
    rw [← Changes.touchIn_grouped, Changes.standing_touch hd, hx, Changes.standing_touch hd]
  cases he with
  | @destroy e ha =>
    have hc : (s.destroy e).changes =
        { s.changes with
          touched := (s.store.names e).foldl (fun ts name => Changes.touchIn e name ts)
            s.changes.touched }.destroy e := by
      rw [Scene.destroy, Changes.touchAll_eq]
    -- What the destruction itself touches belongs to the entity that is gone.
    have hd : e ∈ (s.changes.destroy e).destroyed := mem_note.mpr (.inr rfl)
    rw [Option.toList_none, List.append_nil, hc]
    change (s.changes.destroy e).standing _ = (s.changes.destroy e).standing _
    apply (Changes.standing_touchAll hd _ s.changes.touched).trans
    rw [Changes.standing_destroy, Changes.standing_destroy, hx]
  | put v ha => exact touch _ ha
  | detach ha => exact touch _ ha
  | create =>
    rw [Option.toList_none, List.append_nil]
    exact hx
  | nothing =>
    rw [Option.toList_none, List.append_nil]
    exact hx

end Tracked

/-- The changes that are noted are those that a history tells of, in its order. What is noted of the
components of entities that are gone does not matter. -/
structure Recorded (s : Scene) (h : History κ) : Prop where
  created : s.changes.created = h.created
  destroyed : s.changes.destroyed = h.destroyed
  touched : s.changes.standing s.changes.touched =
    s.changes.standing (Changes.grouped h.touched)

namespace Recorded

variable {s s' : Scene} {r : Replica} {h : History κ} {x : Happening κ}

theorem edit (hr : Recorded s h) (ht : Tracked s r)
    (he : s.Edit x.created? x.destroyed? x.touched? s') : Recorded s' (h ++ [x]) := by
  refine ⟨?_, ?_, ?_⟩
  · rw [History.created, filterMap_concat, ht.created_edit he, hr.created]
    rfl
  · rw [History.destroyed, filterMap_concat, ht.destroyed_edit he, hr.destroyed]
    rfl
  · rw [History.touched, filterMap_concat]
    exact ht.standing_edit he hr.touched

end Recorded

namespace Moment

theorem Trail.recorded {m : Moment κ} {h : History κ} {types : Registry}
    (hh : Trail (.fresh types) h m) : Recorded m.world.scene (h.since Happening.isFlush) := by
  induction hh with
  | nil => exact ⟨rfl, rfl, rfl⟩
  | @snoc h m₁ m₂ x hm hx ih =>
    rw [History.since_concat]
    obtain hq | ⟨seq, result, rfl, ht⟩ := hx.quiet_or_told
    · rw [if_neg (by simp [hq.isFlush])]
      exact ih.edit hm.tracked hq.edit
    · have hf : (Happening.flush m₁.world (m₁.batch seq) result).isFlush = true := rfl
      rw [if_pos hf, ht.scene]
      exact ⟨rfl, rfl, rfl⟩

end Moment

namespace Tracked

variable {s : Scene} {r : Replica} {h : History κ}

theorem due_recorded (ht : Tracked s r) (hr : Recorded s h) :
    s.due.Sublist (Changes.slots (Changes.grouped h.touched)) := by
  have hd : s.due = (Changes.slots (Changes.grouped h.touched)).filter fun x =>
      s.entities.isAlive x.1 := by
    have hs : ∀ ts : List (Entity × List String),
        ((Changes.slots ts).filter fun x => s.entities.isAlive x.1) =
          (Changes.slots (s.changes.standing ts)).filter fun x => s.entities.isAlive x.1 := by
      intro ts
      rw [Changes.standing, Changes.slots_filter fun e => decide (e ∉ s.changes.destroyed),
        List.filter_filter]
      apply List.filter_congr
      intro x hx
      rw [Bool.eq_iff_iff, Bool.and_eq_true, decide_eq_true_eq]
      exact ⟨fun ha => ⟨ha, (ht.alive_iff.mp ha).2⟩, And.left⟩
    rw [Scene.due, hs, hr.touched, ← hs]
  rw [hd]
  exact List.filter_sublist

theorem created?_change {s known : Store} {x : Entity × String} {op : Operation}
    (h : Replica.change? s known x = some op) : op.created? = none ∧ op.removed? = none := by
  have hx := Replica.change?_slot h
  cases op with
  | createEntity e => cases hx
  | removeEntity e => cases hx
  | updateComponent e name v => exact ⟨rfl, rfl⟩
  | removeComponent e name => exact ⟨rfl, rfl⟩

theorem created_farewell (created es : List Entity) :
    (es.flatMap (Replica.farewell created)).filterMap Operation.created? =
      es.filter fun e => e ∈ created := by
  induction es with
  | nil => rfl
  | cons e es ih =>
    rw [List.flatMap_cons, List.filterMap_append, ih, List.filter_cons, Replica.farewell]
    by_cases he : e ∈ created
    · rw [if_pos he, if_pos (decide_eq_true he)]
      rfl
    · rw [if_neg he, if_neg (by simpa using he)]
      rfl

theorem removed_farewell (created es : List Entity) :
    (es.flatMap (Replica.farewell created)).filterMap Operation.removed? = es := by
  induction es with
  | nil => rfl
  | cons e es ih =>
    rw [List.flatMap_cons, List.filterMap_append, ih, Replica.farewell]
    split <;> rfl

theorem created_sync (ht : Tracked s r) :
    (r.sync s.changes s.store).1.filterMap Operation.created? =
      (s.changes.created.filter fun e => s.entities.isAlive e)
        ++ s.changes.destroyed.filter fun e => e ∈ s.changes.created := by
  have hc : (s.due.filterMap (Replica.change? s.store r.store)).filterMap Operation.created? =
      [] := by
    rw [List.filterMap_eq_nil_iff]
    intro op ho
    obtain ⟨x, _, hx⟩ := List.mem_filterMap.mp ho
    exact (created?_change hx).1
  rw [ht.sync_ops, List.filterMap_append, List.filterMap_append, hc, created_farewell,
    List.filterMap_map, List.append_nil]
  exact congrArg (· ++ _) List.filterMap_some

theorem nodup_created_sync (ht : Tracked s r) :
    ((r.sync s.changes s.store).1.filterMap Operation.created?).Nodup := by
  rw [ht.created_sync, List.nodup_append]
  refine ⟨ht.nodup_created.filter _, ht.nodup_destroyed.filter _, fun e he f hf hef => ?_⟩
  have ha := (List.mem_filter.mp he).2
  have hd := (List.mem_filter.mp hf).1
  exact (ht.alive_iff.mp ha).2 (hef ▸ hd)

theorem removed_sync (ht : Tracked s r) :
    (r.sync s.changes s.store).1.filterMap Operation.removed? = s.changes.destroyed := by
  have hc : (s.due.filterMap (Replica.change? s.store r.store)).filterMap Operation.removed? =
      [] := by
    rw [List.filterMap_eq_nil_iff]
    intro op ho
    obtain ⟨x, _, hx⟩ := List.mem_filterMap.mp ho
    exact (created?_change hx).2
  have hn : ((s.changes.created.filter fun e => s.entities.isAlive e).map
      Operation.createEntity).filterMap Operation.removed? = [] := by
    rw [List.filterMap_eq_nil_iff]
    intro op ho
    obtain ⟨e, _, rfl⟩ := List.mem_map.mp ho
    rfl
  rw [ht.sync_ops, List.filterMap_append, List.filterMap_append, hc, hn, removed_farewell]
  rfl

end Tracked

namespace Session

/-- A batch tells first of the new entities, then of the components in the order in which they were
touched, last of the entities that are gone, and of none of them twice. -/
theorem batch_order {b : Behaviour κ σ} {config : Config} {types : Registry} {memory : σ}
    {moves : List (Move κ σ)} {g g' : History κ} {w : World κ} {batch : Batch}
    {result : Except Failure (Option Flushed)}
    (hs : (start config ({ types } : World κ) memory).history b moves =
      g ++ .flush w batch result :: g') :
    let d := g.since Happening.isFlush
    (∃ (changes : List Operation) (slots : List (Entity × String)),
      batch.ops =
        (d.created.filter fun e => w.isAlive e).map .createEntity
          ++ changes
          ++ d.destroyed.flatMap (fun e =>
            if e ∈ d.created then [.createEntity e, .removeEntity e] else [.removeEntity e]) ∧
      changes.map Operation.slot? = slots.map some ∧
      slots.Sublist (Changes.slots (Changes.grouped d.touched))) ∧
    (batch.ops.filterMap Operation.created?).Nodup ∧
    (batch.ops.filterMap Operation.removed?).Nodup := by
  intro d
  obtain ⟨m, hg, hp, rfl, ho⟩ := told_at hs
  have ht := hg.tracked
  have hr := hg.recorded
  rw [← ho]
  refine ⟨?_, ht.nodup_created_sync, ?_⟩
  · obtain ⟨slots, hc, hx⟩ := Replica.changes_slots m.world.store m.replica.store
      m.world.scene.due
    refine ⟨_, slots, ?_, hc, hx.trans (ht.due_recorded hr)⟩
    have he := ht.sync_ops
    rw [hr.created, hr.destroyed] at he
    exact he
  · have hn := ht.nodup_destroyed
    rw [← ht.removed_sync] at hn
    exact hn

theorem batch_order_destroyed :
    let s := start {} ({ types := ∅ } : World Unit) ()
    let s' := s.after .idle [.act .create, .act .create, .act (.destroy ⟨1⟩)]
    ∃ changes, (s'.worked .idle ⟨0⟩).batch.ops =
      [.createEntity ⟨2⟩] ++ changes ++ [.createEntity ⟨1⟩, .removeEntity ⟨1⟩] := by
  intro s s'
  have hk : (s'.tick .idle ⟨0⟩).1.isOk = true := by decide +kernel
  obtain ⟨⟨changes, _, ho, _⟩, _⟩ := batch_order (history_tick hk)
  have hc : ((s.history .idle [.act .create, .act .create, .act (.destroy ⟨1⟩)]
      ++ (.begin :: s'.link.toScene.waiting.map .hear ++ s'.workDeeds .idle ⟨0⟩)
        : History Unit).since Happening.isFlush).created = [⟨1⟩, ⟨2⟩] := by decide +kernel
  have hd : ((s.history .idle [.act .create, .act .create, .act (.destroy ⟨1⟩)]
      ++ (.begin :: s'.link.toScene.waiting.map .hear ++ s'.workDeeds .idle ⟨0⟩)
        : History Unit).since Happening.isFlush).destroyed = [⟨1⟩] := by decide +kernel
  have hw : [⟨1⟩, ⟨2⟩].filter (fun e => (s'.worked .idle ⟨0⟩).world.isAlive e) = [⟨2⟩] := by
    decide +kernel
  rw [hc, hd, hw] at ho
  exact ⟨changes, ho⟩

end Session

end Diorama
