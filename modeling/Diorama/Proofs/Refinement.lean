import Diorama.Proofs.Course
import Diorama.Proofs.HostCopy

namespace Diorama

variable {κ σ : Type}

namespace Moment

/-- A step in which the host is told nothing. -/
structure Quiet (m : Moment κ) (x : Happening κ) (m' : Moment κ) : Prop where
  edit : m.world.scene.Edit x.created? x.destroyed? x.touched? m'.world.scene
  replica : m'.replica = m.replica
  frames : m'.frames = m.frames
  isFlush : x.isFlush = false
  sent : x.sent? = none
  ended : m.phase = .over → m'.phase = .over

structure Told (m : Moment κ) (seq : Nat) (result : Except Failure (Option Flushed))
    (m' : Moment κ) : Prop where
  working : m.phase = .work
  empty : result = .ok none → (m.batch seq).isEmpty = true
  scene : m'.world.scene = { m.world.scene with changes := {} }
  replica : m'.replica = (m.replica.sync m.world.changes m.world.store).2
  phase : m'.phase = if result.isOk then .rest else .over
  frames : m'.frames = m.frames ++
    ((Happening.flush m.world (m.batch seq) result).sent?.map Batch.text).toList

variable {m m' : Moment κ} {x : Happening κ} {h : History κ} {types : Registry}

theorem Step.quiet_or_told (hx : Step m x m') :
    m.Quiet x m' ∨
      ∃ seq result, x = .flush m.world (m.batch seq) result ∧ m.Told seq result m' := by
  cases hx with
  | act a hp => exact .inl ⟨m.world.perform_edit a, rfl, rfl, rfl, rfl, id⟩
  | flush seq result hp hi hl hr =>
    exact .inr ⟨seq, result, rfl, hp, hr, rfl, rfl, rfl, rfl⟩
  | lose hp => exact .inl ⟨.nothing, rfl, rfl, rfl, rfl, fun _ => rfl⟩
  | begin hp => exact .inl ⟨.nothing, rfl, rfl, rfl, rfl, fun ho => by simp [hp] at ho⟩
  | gather ms hp => exact .inl ⟨.nothing, rfl, rfl, rfl, rfl, fun ho => by simp [hp] at ho⟩
  | _ => exact .inl ⟨.nothing, rfl, rfl, rfl, rfl, id⟩

/-- All changes of a run that the host has not been told are noted. -/
theorem Trail.tracked (hh : Trail (.fresh types) h m) : Tracked m.world.scene m.replica := by
  induction hh with
  | nil => exact .fresh
  | snoc hm hx ih =>
    obtain hq | ⟨seq, result, _, ht⟩ := hx.quiet_or_told
    · rw [hq.replica]
      exact ih.edit hq.edit
    · rw [ht.scene, ht.replica]
      exact ih.flush

theorem Trail.frames_eq (hh : Trail (.fresh types) h m) : m.frames = h.sent.map Batch.text := by
  induction hh with
  | nil => rfl
  | @snoc h m₁ m₂ x hm hx ih =>
    rw [History.sent, List.filterMap_append, List.map_append, ← History.sent, ← ih]
    obtain hq | ⟨seq, result, rfl, ht⟩ := hx.quiet_or_told
    · rw [hq.frames, List.filterMap_cons_none hq.sent, List.filterMap_nil, List.map_nil,
        List.append_nil]
    · rw [ht.frames, List.filterMap_cons]
      cases (Happening.flush m₁.world (m₁.batch seq) result).sent? <;> rfl

end Moment

/-- A copy that is up to date with a replica, and that has never seen an entity that is still to be
created for it. -/
structure Followed (c : Copy) (s : Scene) (r : Replica) : Prop where
  agrees : Agrees c r
  seen_lt {e : Entity} : e ∈ c.seen → e.id < s.entities.next
  seen_old {e : Entity} : e ∈ c.seen → e ∉ s.changes.created

namespace Followed

variable {c : Copy} {s s' : Scene} {r : Replica}

theorem fresh : Followed {} {} {} where
  agrees := .fresh
  seen_lt he := absurd he List.not_mem_nil
  seen_old he := absurd he List.not_mem_nil

theorem edit (h : Followed c s r) {created? destroyed? : Option Entity}
    {touched? : Option (Entity × String)} (he : s.Edit created? destroyed? touched? s') :
    Followed c s' r := by
  cases he with
  | create =>
    refine ⟨h.agrees, fun he => Nat.lt_succ_of_lt (h.seen_lt he), fun he => ?_⟩
    rw [Scene.create, Changes.create, mem_note, not_or]
    refine ⟨h.seen_old he, ?_⟩
    rintro rfl
    exact Nat.lt_irrefl _ (h.seen_lt he)
  | destroy ha =>
    refine ⟨h.agrees, h.seen_lt, fun he => ?_⟩
    rw [Scene.destroy, Changes.touchAll_eq]
    exact h.seen_old he
  | put v ha => exact ⟨h.agrees, h.seen_lt, h.seen_old⟩
  | detach ha => exact ⟨h.agrees, h.seen_lt, h.seen_old⟩
  | nothing => exact h

theorem flush (h : Followed c s r) (ht : Tracked s r) :
    ∃ c', c.follow (r.sync s.changes s.store).1 = some c' ∧
      Followed c' { s with changes := {} } (r.sync s.changes s.store).2 := by
  obtain ⟨c', hc, ha⟩ := ht.follow h.agrees fun e he hs => h.seen_old hs he
  refine ⟨c', hc, ha, fun he => ?_, fun _ => List.not_mem_nil⟩
  obtain he | he := (Copy.seen_follow hc).mp he
  · exact h.seen_lt he
  · exact ht.created_lt (ht.created_of_mem he)

end Followed

namespace Moment

variable {m : Moment κ} {h : History κ} {types : Registry}

theorem Trail.followed (hh : Trail (.fresh types) h m) :
    ∃ c, Copy.follow {} (h.sent.flatMap (·.ops)) = some c ∧
      (m.phase ≠ .over → Followed c m.world.scene m.replica) := by
  induction hh with
  | nil => exact ⟨{}, rfl, fun _ => .fresh⟩
  | @snoc h m₁ m₂ x hm hx ih =>
    obtain ⟨c, hc, hf⟩ := ih
    rw [History.sent, List.filterMap_append, List.flatMap_append, ← History.sent,
      Copy.follow_append, hc, Option.bind_some]
    obtain hq | ⟨seq, result, rfl, ht⟩ := hx.quiet_or_told
    · rw [List.filterMap_cons_none hq.sent]
      refine ⟨c, rfl, fun hn => ?_⟩
      rw [hq.replica]
      exact (hf fun ho => hn (hq.ended ho)).edit hq.edit
    · have hp : m₁.phase ≠ .over := by simp [ht.working]
      obtain ⟨c', hc', hf'⟩ := (hf hp).flush hm.tracked
      rw [ht.scene, ht.replica, ht.phase]
      rcases result with f | _ | f
      · exact ⟨c, rfl, fun hn => absurd rfl hn⟩
      -- What is not sent is empty, so that the copy misses nothing.
      · have hb := ht.empty rfl
        rw [Batch.isEmpty, Bool.and_eq_true, List.isEmpty_iff] at hb
        have hn : (m₁.replica.sync m₁.world.scene.changes m₁.world.scene.store).1 = [] := hb.1
        rw [hn] at hc'
        obtain rfl : c = c' := Option.some.inj hc'
        exact ⟨c, rfl, fun _ => hf'⟩
      · refine ⟨c', ?_, fun _ => hf'⟩
        rw [← hc']
        exact congrArg (Copy.follow c) (List.append_nil _)

end Moment

namespace Session

theorem told_at {b : Behaviour κ σ} {config : Config} {types : Registry} {memory : σ}
    {moves : List (Move κ σ)} {g g' : History κ} {w : World κ} {batch : Batch}
    {result : Except Failure (Option Flushed)}
    (hs : (start config ({ types } : World κ) memory).history b moves =
      g ++ .flush w batch result :: g') :
    ∃ m, Moment.Trail (.fresh types) g m ∧ m.phase = .work ∧ m.world = w ∧
      (m.replica.sync m.world.changes m.world.store).1 = batch.ops := by
  have hh := start_trail b config types memory moves
  rw [hs] at hh
  obtain ⟨m, m', hg, hx, _⟩ := hh.split_at
  cases hx with
  | flush seq result hp hi hl hr => exact ⟨m, hg, hp, rfl, rfl⟩

theorem tick_settled {b : Behaviour κ σ} {dt : Binary64} {s : Session κ σ}
    (hk : (s.tick b dt).1.isOk = true) :
    (s.tick b dt).2.moment.phase = .rest ∧ (s.tick b dt).2.moment.world.changes = {} := by
  obtain ⟨hf, hk⟩ := tick_isOk hk
  rw [tick_moment b dt hf, if_pos hk, step_isOk hk]
  exact ⟨rfl, congrArg World.changes (Turn.flush_world _)⟩

/-- A host that follows a session never meets an operation that is out of place, and after every
tick that succeeds it has the living entities with their components, and nothing else. -/
theorem host_follows_scene (b : Behaviour κ σ) (config : Config) (types : Registry) (memory : σ)
    (moves : List (Move κ σ)) :
    let s := start config ({ types } : World κ) memory
    (s.after b moves).link.toHost.frames = (s.history b moves).sent.map Batch.text ∧
      ∃ c, Copy.follow {} ((s.history b moves).sent.flatMap (·.ops)) = some c ∧
        ∀ before dt, moves = before ++ [.tick dt] →
          ((s.after b before).tick b dt).1.isOk = true →
          (∀ e, c.holds e = (s.after b moves).world.isAlive e) ∧
            ∀ e name, alike ((s.after b moves).world.store.get? e name) (c.get? e name) = true := by
  intro s
  have hh : Moment.Trail (.fresh types) (s.history b moves) (s.after b moves).moment :=
    start_trail b config types memory moves
  refine ⟨hh.frames_eq, ?_⟩
  obtain ⟨c, hc, hf⟩ := hh.followed
  refine ⟨c, hc, fun before dt he hk => ?_⟩
  have ha : s.after b moves = ((s.after b before).tick b dt).2 := by
    rw [he, after_append]
    rfl
  obtain ⟨hp, hn⟩ := tick_settled hk
  rw [← ha] at hp hn
  have hg := (hf (by simp [hp])).agrees
  obtain ⟨hk, hs⟩ := hh.tracked.settled hn
  refine ⟨fun e => ?_, fun e name => ?_⟩
  · rw [hg.holds]
    exact hk e
  · rw [hg.get?]
    exact hs e name

theorem host_follows_scene_created :
    let s := start {} ({ types := ∅ } : World Unit) ()
    ((s.after .idle [.act .create]).tick .idle ⟨0⟩).1.isOk = true ∧
      ∃ c, Copy.follow {} ((s.history .idle [.act .create, .tick ⟨0⟩]).sent.flatMap (·.ops)) =
        some c ∧ c.holds ⟨1⟩ = true := by
  intro s
  have hk : ((s.after .idle [.act .create]).tick .idle ⟨0⟩).1.isOk = true := by decide +kernel
  obtain ⟨_, c, hc, hs⟩ := host_follows_scene .idle {} ∅ () [.act .create, .tick ⟨0⟩]
  refine ⟨hk, c, hc, ?_⟩
  rw [(hs [.act .create] ⟨0⟩ rfl hk).1]
  decide +kernel

end Session

end Diorama
