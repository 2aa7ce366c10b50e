import Diorama.Proofs.Living
import Diorama.Proofs.Numbering
import Diorama.Proofs.Refinement
import Diorama.Proofs.RoundTrip

namespace Diorama

open Moment

variable {κ σ : Type}

structure World.Agrees (w u : World κ) : Prop where
  entities : w.entities = u.entities
  store : w.store = u.store
  types : w.types = u.types

namespace World.Agrees

variable {w u : World κ}

theorem base (h : w.Agrees u) (e : Entity) (c : String) : w.base e c = u.base e c := by
  rw [World.base, World.base, h.entities, h.store, h.types]

theorem put (h : w.Agrees u) (e : Entity) (c : String) (v : Json) :
    (w.put e c v).Agrees (u.put e c v) where
  entities := h.entities
  store := congrArg (fun s => (s.insert e c v).2) h.store
  types := h.types

theorem perform (h : w.Agrees u) (a : Action κ) : (w.perform a).2.Agrees (u.perform a).2 := by
  cases a with
  | create => exact ⟨congrArg (·.create.2) h.entities, h.store, h.types⟩
  | destroy e =>
    simp only [World.perform, World.destroy, h.entities]
    exact settle_bind h fun _ => ⟨rfl, congrArg (fun s => (s.removeEntity e).2) h.store, h.types⟩
  | attach e c v =>
    simp only [World.perform, World.attach, h.entities, h.types]
    exact settle_bind h fun _ => settle_bind h fun _ => h.put e c v
  | mutate e c change =>
    simp only [World.perform, World.mutate, h.base, h.types]
    exact settle_bind h fun _ => settle_bind h fun v => settle_bind h fun _ => h.put e c v
  | detach e c =>
    simp only [World.perform, World.detach, h.entities, h.store, bind, Except.bind]
    cases u.entities.ensureAlive e with
    | error f => exact h
    | ok _ =>
      cases (u.store.remove e c).1.isSome with
      | false => exact h
      | true => exact ⟨rfl, rfl, h.types⟩
  | declare t => exact ⟨h.entities, h.store, congrArg (·.declare t) h.types⟩
  | _ => exact ⟨h.entities, h.store, h.types⟩

end World.Agrees

namespace Happening

/-- The values that code gives in it, in the world after it: the component that it sets and the
payload of the query that it asks. -/
def given (x : Happening κ) (w : World κ) : List Json :=
  (x.touched?.bind fun y => w.store.get? y.1 y.2).toList ++ (x.request?.map (·.payload)).toList

end Happening

namespace History

def given (w : World κ) : History κ → List Json
  | [] => []
  | x :: h => x.given (x.replay w) ++ given (x.replay w) h

theorem given_append (w : World κ) (h h' : History κ) :
    given w (h ++ h') = h.given w ++ h'.given (h.foldl Happening.replay w) := by
  induction h generalizing w with
  | nil => rfl
  | cons x h ih =>
    rw [List.cons_append, given, ih, ← List.append_assoc]
    rfl

end History

theorem Replica.change?_value {s known : Store} {x : Entity × String} {e : Entity} {c : String}
    {v : Json} (h : change? s known x = some (.updateComponent e c v)) :
    s.get? x.1 x.2 = some v := by
  rw [change?] at h
  split at h
  · split at h
    · cases h
    · cases h
      assumption
  · split at h <;> cases h

namespace Tracked

variable {s : Scene} {r : Replica} {o : Operation}

theorem sync_value (h : Tracked s r) {v : Json} (ho : o ∈ (r.sync s.changes s.store).1)
    (hv : v ∈ o.values) : ∃ e c, s.store.get? e c = some v := by
  cases o with
  | updateComponent e c u =>
    obtain rfl := List.mem_singleton.mp hv
    exact ⟨e, c, Replica.change?_value ((h.mem_sync rfl).mp ho).2⟩
  | _ => cases hv

theorem sync_lt (h : Tracked s r) (ho : o ∈ (r.sync s.changes s.store).1) :
    o.entity.id < s.entities.next := by
  rw [h.sync_ops, List.mem_append, List.mem_append, List.mem_map, List.mem_filterMap,
    List.mem_flatMap] at ho
  obtain (⟨e, he, rfl⟩ | ⟨x, hx, hc⟩) | ⟨e, he, hf⟩ := ho
  · exact h.created_lt (List.mem_filter.mp he).1
  · have hl : o.entity = x.1 := by
      have hs := Replica.change?_slot hc
      cases o <;> cases hs <;> rfl
    rw [hl]
    exact h.alive_lt (List.mem_filter.mp hx).2
  · have hl : o.entity = e := by
      rw [Replica.farewell] at hf
      split at hf <;> simp only [List.mem_cons, List.not_mem_nil, or_false] at hf
      · obtain rfl | rfl := hf <;> rfl
      · rw [hf]
        rfl
    rw [hl]
    exact (h.destroyed_once he).elim h.known_lt h.created_lt

end Tracked

theorem Entities.Step.next_le {es es' : Entities} {created? destroyed? : Option Entity}
    (h : es.Step created? destroyed? es') : es.next ≤ es'.next := by
  cases h with
  | create => exact Nat.le_succ _
  | _ => exact Nat.le_refl _

theorem Scene.Edit.stored {s s' : Scene} {created? destroyed? : Option Entity}
    {touched? : Option (Entity × String)} (h : s.Edit created? destroyed? touched? s') {e : Entity}
    {c : String} {v : Json} (hv : s'.store.get? e c = some v) :
    s.store.get? e c = some v ∨ touched? = some (e, c) := by
  cases h with
  | @destroy x ha =>
    have hd := s.store.get?_removeEntity x e c
    rw [show (s.store.removeEntity x).2.get? e c = some v from hv] at hd
    split at hd
    · cases hd
    · exact .inl hd.symm
  | @put x d u ha =>
    have hp := s.store.get?_insert x e d c u
    rw [show (s.store.insert x d u).2.get? e c = some v from hv] at hp
    split at hp
    · rename_i he
      rw [he.1, he.2]
      exact .inr rfl
    · exact .inl hp.symm
  | @detach x d ha =>
    have hd := s.store.get?_remove x e d c
    rw [show (s.store.remove x d).2.get? e c = some v from hv] at hd
    split at hd
    · cases hd
    · exact .inl hd.symm
  | _ => exact .inl hv

namespace Moment

variable {m m₁ m₂ : Moment κ} {h : History κ} {x : Happening κ} {types : Registry}

structure Sourced (types : Registry) (h : History κ) (m : Moment κ) : Prop where
  agrees : (h.foldl Happening.replay { types }).Agrees m.world
  stored {e : Entity} {c : String} {v : Json} : m.world.store.get? e c = some v →
    v ∈ h.given { types }
  asked {r : Request} : r ∈ m.world.queries.outgoing → r.payload ∈ h.given { types }

theorem Step.agrees (hx : Step m₁ x m₂) {w : World κ} (hw : w.Agrees m₁.world) :
    (x.replay w).Agrees m₂.world := by
  cases hx with
  | act a hp => exact hw.perform a
  | _ => exact ⟨hw.entities, hw.store, hw.types⟩

/-- What is attached after a step was attached before, or code has given it. -/
theorem Step.stored (hx : Step m₁ x m₂) {e : Entity} {c : String} {v : Json}
    (hv : m₂.world.store.get? e c = some v) :
    m₁.world.store.get? e c = some v ∨ x.touched? = some (e, c) := by
  cases hx with
  | act a hp =>
    have hs := (m₁.world.perform_edit a).stored hv
    exact hs
  | _ => exact .inl hv

theorem Step.sourced (hx : Step m₁ x m₂) (hs : Sourced types h m₁) :
    Sourced types (h ++ [x]) m₂ := by
  have hg : (h ++ [x] : History κ).given { types } =
      h.given { types } ++ x.given (x.replay (h.foldl Happening.replay { types })) := by
    rw [History.given_append, History.given, History.given, List.append_nil]
  have ha := hx.agrees hs.agrees
  refine ⟨by rwa [List.foldl_append], fun {e c v} hv => ?_, fun {r} hr => ?_⟩
  · rw [hg, List.mem_append]
    obtain hb | ht := hx.stored hv
    · exact .inl (hs.stored hb)
    · rw [Happening.given, ht, Option.bind_some, ha.store, hv]
      exact .inr (List.mem_append_left _ (.head _))
  · rw [hg, List.mem_append]
    rw [hx.outgoing] at hr
    split at hr
    · cases hr
    · obtain hb | hn := List.mem_append.mp hr
      · exact .inl (hs.asked (List.mem_filter.mp hb).1)
      · rw [Option.mem_toList] at hn
        refine .inr (List.mem_append_right _ ?_)
        rw [hn]
        exact .head _

theorem Trail.sourced (hh : Trail (.fresh types) h m) : Sourced types h m := by
  induction hh with
  | nil => exact ⟨⟨rfl, rfl, rfl⟩, nofun, nofun⟩
  | snoc _ hx ih => exact hx.sourced ih

theorem Trail.entities_next_le (hh : Trail m h m₁) :
    m.world.entities.next ≤ m₁.world.entities.next := by
  induction hh with
  | nil => exact Nat.le_refl _
  | snoc _ hx ih =>
    exact Nat.le_trans ih hx.entities.next_le

theorem Trail.sent_at (hh : Trail m h m₁) {batch : Batch} (hb : batch ∈ h.sent) :
    ∃ g m₀ seq g', h = g ++ g' ∧ Trail m g m₀ ∧ Trail m₀ g' m₁ ∧ batch = m₀.batch seq := by
  obtain ⟨x, hx, hs⟩ := List.mem_filterMap.mp hb
  obtain ⟨g, g', rfl⟩ := List.append_of_mem hx
  obtain ⟨m₀, m₀', hg, hx, hg'⟩ := hh.split_at
  refine ⟨g, m₀, batch.seq, _, rfl, hg, .cons hx hg', ?_⟩
  cases hx with
  | flush seq result hp hi hl hr =>
    rcases result with f | _ | f <;> cases hs
    rfl
  | act a hp => cases hs
  | _ => cases hs

section
variable (hh : Trail (.fresh types) h m) {batch : Batch} (hb : batch ∈ h.sent)
include hh hb

theorem Trail.sent_given {v : Json} (hv : v ∈ batch.values) : v ∈ h.given { types } := by
  obtain ⟨g, m₀, seq, g', rfl, hg, _, rfl⟩ := hh.sent_at hb
  rw [History.given_append]
  refine List.mem_append_left _ ?_
  obtain hv | hv := List.mem_append.mp hv
  · obtain ⟨o, ho, hv⟩ := List.mem_flatMap.mp hv
    obtain ⟨e, c, hs⟩ := hg.tracked.sync_value ho hv
    exact hg.sourced.stored hs
  · obtain ⟨r, hr, hv⟩ := List.mem_flatMap.mp hv
    rw [List.mem_singleton.mp hv]
    exact hg.sourced.asked hr

theorem Trail.sent_lt {o : Operation} (ho : o ∈ batch.ops) :
    o.entity.id < m.world.entities.next := by
  obtain ⟨g, m₀, seq, g', rfl, hg, hg', rfl⟩ := hh.sent_at hb
  exact Nat.lt_of_lt_of_le (hg.tracked.sync_lt ho) hg'.entities_next_le

end

end Moment

namespace Session

theorem numbered (b : Behaviour κ σ) (config : Config) (types : Registry) (memory : σ)
    (moves : List (Move κ σ)) :
    ((start config ({ types } : World κ) memory).after b moves).Numbered config
      ((start config ({ types } : World κ) memory).history b moves).sent :=
  (Numbered.start config types memory).after b moves

/-- Every frame that the host is sent is read as the batch that was sent, if the values in it nest
no deeper than 124 arrays and objects. One with a deeper value cannot be read. -/
theorem host_reads_batches (b : Behaviour κ σ) (config : Config) (types : Registry) (memory : σ)
    (moves : List (Move κ σ)) :
    let s := start config ({ types } : World κ) memory
    let u := s.after b moves
    let h := s.history b moves
    u.world.entities.next < 0x1_0000_0000_0000_0000 → u.outbox.next < 0x1_0000_0000_0000_0000 →
    (∀ v ∈ h.given { types }, v.isPlain = true) →
    u.link.toHost.frames.map (fun frame => Batch.parse frame.toList) =
      h.sent.map fun batch =>
        if ∀ v ∈ batch.values, v.height ≤ 124 then .ok batch else .error .malformed := by
  intro s u h he hn hv
  have hh : Trail (.fresh types) h u.moment := start_trail b config types memory moves
  have hs : u.Numbered config h.sent := numbered b config types memory moves
  rw [hs.frames, List.map_map]
  apply List.map_congr_left
  intro batch hb
  have hq : batch.seq ∈ List.range' 1 h.sent.length := hs.seqs ▸ List.mem_map_of_mem hb
  have hp : batch.Plain := by
    refine ⟨?_, fun o ho => ?_, fun v hm => hv v (hh.sent_given hb hm)⟩
    · have hl := (List.mem_range'_1.mp hq).2
      have hn' := hs.next
      omega
    · exact Nat.lt_trans (hh.sent_lt hb ho) he
  rw [Function.comp_apply, Batch.parse_text hp]
  simp only [Draft.fits, Json.heightItems_le]

theorem host_reads_batches_first :
    let s := start {} ({ types := ∅ } : World Unit) ()
    let ms : List (Move Unit Unit) :=
      [.act (.declare ⟨"c", [], none⟩), .act .create, .act (.attach ⟨1⟩ "c" (.nested 2)),
        .act (.ask "where" .null ()), .tick ⟨0⟩]
    (s.history .idle ms).sent.length = 1 ∧
      (s.after .idle ms).link.toHost.frames.map (fun frame => Batch.parse frame.toList) =
        (s.history .idle ms).sent.map .ok := by
  intro s ms
  have hh : (s.history .idle ms).sent.length = 1 ∧
      ∀ batch ∈ (s.history .idle ms).sent, ∀ v ∈ batch.values, v.height ≤ 124 := by
    decide +kernel
  have hr := host_reads_batches .idle {} ∅ () ms (by decide +kernel) (by decide +kernel)
    (by decide +kernel)
  refine ⟨hh.1, ?_⟩
  rw [hr]
  apply List.map_congr_left
  intro batch hb
  exact if_pos (hh.2 batch hb)

/-- A value that is read from its own text, attached and sent, but not read by the host. -/
theorem deep_batch_is_unreadable :
    let v := Json.nested 125
    let s := start {} ({ types := ∅ } : World Unit) ()
    let ms : List (Move Unit Unit) :=
      [.act (.declare ⟨"c", [], none⟩), .act .create, .act (.attach ⟨1⟩ "c" v), .tick ⟨0⟩]
    Json.parse v.render = .ok v ∧
      (s.after .idle ms).link.toHost.frames.map (fun frame => Batch.parse frame.toList) =
        [.error .malformed] := by
  intro v s ms
  have hf : (s.after .idle ms).link.toHost.frames = (s.history .idle ms).sent.map Batch.text := by
    with_reducible exact (numbered .idle {} ∅ () ms).frames
  have hb : (s.history .idle ms).sent.length = 1 ∧ ∀ batch ∈ (s.history .idle ms).sent,
      batch.seq < 0x1_0000_0000_0000_0000 ∧
      (∀ o ∈ batch.ops, o.entity.id < 0x1_0000_0000_0000_0000) ∧
      (∀ v ∈ batch.values, v.isPlain = true) ∧ ¬ Json.heightItems batch.values ≤ 124 := by
    decide +kernel
  refine ⟨(Json.parse_render (by decide +kernel)).trans (if_pos (by decide +kernel)), ?_⟩
  rw [hf]
  generalize (s.history .idle ms).sent = sent at hb
  obtain ⟨hl, hb⟩ := hb
  obtain ⟨batch, rfl⟩ := List.length_eq_one_iff.mp hl
  obtain ⟨hq, ho, hv, hn⟩ := hb batch (.head _)
  exact congrArg (fun r => [r]) ((Batch.parse_text ⟨hq, ho, hv⟩).trans (if_neg hn))

end Session

end Diorama
