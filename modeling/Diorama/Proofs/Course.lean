import Diorama.Proofs.Edits
import Diorama.Proofs.Moment

namespace Diorama

open Moment

variable {κ σ : Type}

theorem Program.run_journal (p : Program κ σ) (s : Stage κ σ) (j : List Event) :
    p.run { s with journal := j } =
      ⟨(p.run s).self, (p.run s).ending, { (p.run s).stage with journal := j }⟩ := by
  induction p generalizing s with
  | finish self memory ending => rfl
  | act a next ih => exact ih (s.world.perform a).1 { s with world := (s.world.perform a).2 }
  | look next ih => exact ih s.world s

theorem Stage.call_journal (s : Stage κ σ) (b : Behaviour κ σ) (code : κ) (o : Occasion)
    (j : List Event) :
    ({ s with journal := j } : Stage κ σ).call b code o =
      ⟨(s.call b code o).self, (s.call b code o).ending,
        { (s.call b code o).stage with journal := j }⟩ :=
  Program.run_journal (b code o s.memory) s j

theorem Schedule.deeds_journal (b : Behaviour κ σ) (dt : Binary64) (ms : Members (System κ))
    (s : Stage κ σ) (j : List Event) :
    deeds b dt ms { s with journal := j } = deeds b dt ms s := by
  induction ms generalizing s j with
  | nil => rfl
  | cons x ms ih =>
    simp only [deeds, Stage.call_journal, ih]
    rfl

theorem Dispatch.deeds_journal (b : Behaviour κ σ) (e : HostEvent)
    (ms : Members (Subscription κ)) (s : Stage κ σ) (j : List Event) :
    deeds b e ms { s with journal := j } = deeds b e ms s := by
  induction ms generalizing s j with
  | nil => rfl
  | cons x ms ih =>
    simp only [deeds, Stage.call_journal, ih]
    rfl

theorem Program.trail (p : Program κ σ) (s : Stage κ σ) (m : Moment κ) (hw : m.world = s.world)
    (hp : m.phase ≠ .intake) :
    Trail m (p.deeds s.world) { m with world := (p.run s).stage.world } := by
  induction p generalizing s m with
  | finish self memory ending => exact hw ▸ .nil
  | act a next ih =>
    have hx := Step.act a hp
    rw [hw] at hx
    exact .cons hx (ih _ { s with world := (s.world.perform a).2 } _ rfl hp)
  | look next ih => exact ih s.world s m hw hp

theorem Program.run_tick (p : Program κ σ) (s : Stage κ σ) :
    (p.run s).stage.world.tick = s.world.tick := by
  induction p generalizing s with
  | finish self memory ending => rfl
  | act a next ih => exact (ih _ _).trans (World.perform_tick s.world a)
  | look next ih => exact ih s.world s

theorem Stage.call_trail (s : Stage κ σ) (b : Behaviour κ σ) (code : κ) (o : Occasion)
    (m : Moment κ) (hw : m.world = s.world) (hp : m.phase = .work) :
    Trail m (s.deeds b code o) { m with world := (s.call b code o).stage.world } :=
  Program.trail _ s m hw (by simp [hp])

theorem Stage.call_tick (s : Stage κ σ) (b : Behaviour κ σ) (code : κ) (o : Occasion) :
    (s.call b code o).stage.world.tick = s.world.tick :=
  Program.run_tick _ s

theorem Schedule.pass_trail (b : Behaviour κ σ) (scene : String) (dt : Binary64)
    (ms : Members (System κ)) (s : Stage κ σ) (m : Moment κ) (hw : m.world = s.world)
    (hp : m.phase = .work) :
    Trail m (deeds b dt ms s) { m with world := (pass b scene dt ms s).stage.world } := by
  induction ms generalizing s m with
  | nil => exact hw ▸ .nil
  | cons x ms ih =>
    obtain ⟨h, y⟩ := x
    refine .cons (.update h hp) (.trans (Stage.call_trail s b y.code _ m hw hp) ?_)
    simp only [pass]
    split
    · exact ih _ _ rfl hp
    -- That the call went wrong is written to the log, and the pass goes on from there.
    · rename_i reason _
      have hr := ih ((s.call b y.code (.update dt)).stage.log (report scene y.name reason))
        { m with world := (s.call b y.code (.update dt)).stage.world } rfl hp
      rwa [Stage.log, deeds_journal] at hr

theorem Schedule.pass_tick (b : Behaviour κ σ) (scene : String) (dt : Binary64)
    (ms : Members (System κ)) (s : Stage κ σ) :
    (pass b scene dt ms s).stage.world.tick = s.world.tick := by
  induction ms generalizing s with
  | nil => rfl
  | cons x ms ih =>
    simp only [pass]
    split <;> exact (ih _).trans (Stage.call_tick s b _ _)

theorem Dispatch.deliver_trail (b : Behaviour κ σ) (scene : String) (e : HostEvent)
    (ms : Members (Subscription κ)) (s : Stage κ σ) (m : Moment κ) (hw : m.world = s.world)
    (hp : m.phase = .work) :
    Trail m (deeds b e ms s) { m with world := (deliver b scene e ms s).stage.world } := by
  induction ms generalizing s m with
  | nil => exact hw ▸ .nil
  | cons x ms ih =>
    obtain ⟨h, y⟩ := x
    simp only [deeds, deliver]
    by_cases hs : y.wants e = true
    · rw [if_pos hs, if_pos hs]
      refine .cons (.notify h e hp) (.trans (Stage.call_trail s b y.code _ m hw hp) ?_)
      split
      · exact ih _ _ rfl hp
      · rename_i reason _
        have hr := ih ((s.call b y.code (.event e)).stage.log (report scene e.name reason))
          { m with world := (s.call b y.code (.event e)).stage.world } rfl hp
        rwa [Stage.log, deeds_journal] at hr
    · rw [if_neg hs, if_neg hs]
      exact ih s m hw hp

theorem Dispatch.deliver_tick (b : Behaviour κ σ) (scene : String) (e : HostEvent)
    (ms : Members (Subscription κ)) (s : Stage κ σ) :
    (deliver b scene e ms s).stage.world.tick = s.world.tick := by
  induction ms generalizing s with
  | nil => rfl
  | cons x ms ih =>
    simp only [deliver]
    split
    · split <;> exact (ih _).trans (Stage.call_tick s b _ _)
    · exact ih s

/-- What a tick leaves alone from when it has taken in the frames until it tells the host. -/
structure Backdrop where
  config : Config
  inbox : List Arrival
  outbox : Outbox
  replica : Replica
  link : Link
  failure : Option Failure
  paused : Bool
  stats : Stats
  now : Nat
  tick : Nat

namespace Turn

def backdrop (t : Turn κ σ) : Backdrop where
  config := t.session.config
  inbox := t.session.inbox
  outbox := t.session.outbox
  replica := t.session.replica
  link := t.session.link
  failure := t.session.failure
  paused := t.session.paused
  stats := t.session.stats
  now := t.world.tick
  tick := t.report.tick

def moment (t : Turn κ σ) (phase : Phase) (inbox : List Arrival) (late : List (RequestId × κ)) :
    Moment κ where
  world := t.world
  replica := t.session.replica
  inbox
  late
  phase
  frames := t.session.link.toHost.frames

theorem moment_eq {t u : Turn κ σ} (h : u.backdrop = t.backdrop) (phase : Phase)
    (inbox : List Arrival) (late : List (RequestId × κ)) :
    u.moment phase inbox late = { t.moment phase inbox late with world := u.world } := by
  have hr : u.session.replica = t.session.replica := congrArg Backdrop.replica h
  have hl : u.session.link = t.session.link := congrArg Backdrop.link h
  simp only [moment, hr, hl]

section
variable (b : Behaviour κ σ) (t : Turn κ σ)

theorem complete_world (id : RequestId) (code : κ) (o : Outcome) :
    (t.complete b id code o).world = (t.session.stage.call b code (.outcome o)).stage.world := by
  simp only [complete]
  split <;> rfl

theorem complete_backdrop (id : RequestId) (code : κ) (o : Outcome) :
    (t.complete b id code o).backdrop = t.backdrop := by
  have hn := Stage.call_tick t.session.stage b code (.outcome o)
  simp only [complete]
  split <;> simp only [backdrop, world, log, Session.log, Stage.log, Session.world, hn]

theorem handle_backdrop (a : Arrival) : (t.handle b a).backdrop = t.backdrop := by
  cases a with
  | event e =>
    simp only [handle]
    split
    · rfl
    · have hn := Dispatch.deliver_tick b t.session.config.sceneId e t.session.subscriptions
        t.session.stage
      simp only [backdrop, deliver, world, Session.world, hn]
  | response id o =>
    simp only [handle]
    split
    · exact complete_backdrop b _ _ _ _
    · rfl

theorem timeOut_backdrop (q : RequestId × κ) : (t.timeOut b q).backdrop = t.backdrop :=
  complete_backdrop b (t.log (.say .debug Target.session s!"Query '{q.1.text}' timed out")) _ _ _

/-- What every step of a loop leaves alone, the loop leaves alone. -/
theorem foldl_keeps {α β : Type} (view : Turn κ σ → β) {f : Turn κ σ → α → Turn κ σ}
    (hf : ∀ t a, view (f t a) = view t) (as : List α) : view (as.foldl f t) = view t := by
  induction as generalizing t with
  | nil => rfl
  | cons a as ih => exact (ih (f t a)).trans (hf t a)

theorem dispatch_backdrop : (t.dispatch b).backdrop = { t.backdrop with inbox := [] } :=
  foldl_keeps _ backdrop (handle_backdrop b) _

theorem expire_backdrop : (t.expire b).backdrop = t.backdrop :=
  foldl_keeps _ backdrop (timeOut_backdrop b) _

theorem update_backdrop (dt : Binary64) : (t.update b dt).backdrop = t.backdrop := by
  simp only [update]
  split
  · rfl
  · have hn := Schedule.pass_tick b t.session.config.sceneId dt
      (t.world.systems.call Schedule.place t.session.systems).1
      { t.session.stage with
        world.systems := (t.world.systems.call Schedule.place t.session.systems).2 }
    simp only [backdrop, world, Session.world, Schedule.run] at hn ⊢
    rw [hn]

theorem along_trail {α : Type} {deal : Turn κ σ → α → Turn κ σ} {deeds : Turn κ σ → α → History κ}
    (mom : Turn κ σ → List α → Moment κ)
    (hd : ∀ t a as, Trail (mom t (a :: as)) (deeds t a) (mom (deal t a) as)) (as : List α) :
    Trail (mom t as) (along deal deeds t as) (mom (as.foldl deal t) []) := by
  induction as generalizing t with
  | nil => exact .nil
  | cons a as ih => exact .trans (hd t a as) (ih (deal t a))

theorem complete_trail (id : RequestId) (code : κ) (o : Outcome) (as : List Arrival)
    (late : List (RequestId × κ)) :
    Trail (t.moment .work as late) (t.session.stage.deeds b code (.outcome o))
      ((t.complete b id code o).moment .work as late) := by
  rw [moment_eq (complete_backdrop b t id code o), complete_world]
  exact Stage.call_trail _ b code _ _ rfl rfl

theorem handle_trail (a : Arrival) (as : List Arrival) :
    Trail (t.moment .work (a :: as) []) (t.handleDeeds b a)
      ((t.handle b a).moment .work as []) := by
  cases a with
  | event e =>
    simp only [handle, handleDeeds]
    cases he : e.entity.filter fun x => !t.world.isAlive x with
    | some x =>
      have ha : t.world.isAlive x = false := by
        simpa using (Option.filter_eq_some_iff.mp he).2
      exact .single (.dropEvent x rfl rfl ha)
    | none =>
      have ha : ∀ x ∈ e.entity, t.world.isAlive x = true := fun x hx => by
        simpa using Option.filter_eq_none_iff.mp he x hx
      apply Trail.cons (.deliver rfl rfl ha)
      exact Dispatch.deliver_trail b t.session.config.sceneId e t.session.subscriptions
        t.session.stage (t.moment .work as []) rfl rfl
  | response id o =>
    simp only [handle, handleDeeds]
    cases hq : t.world.queries.pending.get? id with
    | none =>
      have hi : t.world.queries.isPending id = false := by
        simp [Queries.isPending, Table.contains, hq]
      simp only [Queries.resolve, hq, Option.map_none]
      exact .single (.dropResponse rfl rfl hi)
    | some p =>
      have hi : (t.world.queries.resolve id).1 = some p.callback := by
        rw [Queries.resolve, hq, Option.map_some]
      simp only [Queries.resolve, hq, Option.map_some]
      let world : World κ := { t.world with queries := (t.world.queries.resolve id).2 }
      apply Trail.cons (.answer rfl rfl hi)
      exact complete_trail b { t with session := t.session.setWorld world } id p.callback o as []

theorem timeOut_trail (q : RequestId × κ) (late : List (RequestId × κ)) :
    Trail (t.moment .work [] (q :: late)) (t.timeOutDeeds b q)
      ((t.timeOut b q).moment .work [] late) := by
  apply Trail.cons (.timeOut rfl rfl)
  exact complete_trail b (t.log (.say .debug Target.session s!"Query '{q.1.text}' timed out"))
    q.1 q.2 .timedOut [] late

theorem dispatch_trail :
    Trail (t.moment .intake t.session.inbox []) (t.dispatchDeeds b)
      ((t.dispatch b).moment .work [] []) := by
  apply Trail.cons (.gather t.session.subscriptions rfl)
  exact along_trail t.gathered (fun t as => t.moment .work as []) (handle_trail b) t.session.inbox

theorem expire_trail :
    Trail (t.moment .work [] []) (t.expireDeeds b) ((t.expire b).moment .work [] []) := by
  apply Trail.cons (.lapse t.session.config.queryTimeoutTicks rfl rfl rfl)
  exact along_trail t.lapsed.2 (fun t late => t.moment .work [] late) (timeOut_trail b) t.lapsed.1

theorem update_trail (dt : Binary64) :
    Trail (t.moment .work [] []) (t.updateDeeds b dt) ((t.update b dt).moment .work [] []) := by
  rw [moment_eq (update_backdrop b t dt)]
  by_cases hp : t.session.paused = true
  · simp only [update, updateDeeds, if_pos hp]
    exact .nil
  · simp only [update, updateDeeds, if_neg hp]
    apply Trail.cons (.convene t.session.systems rfl)
    exact Schedule.pass_trail b t.session.config.sceneId dt _ _ _ rfl rfl

theorem receive_trail (frame : String) :
    Trail (t.moment .intake t.session.inbox []) [.hear frame]
      ((t.receive frame).moment .intake (t.receive frame).session.inbox []) := by
  have hm : (t.receive frame).moment .intake (t.receive frame).session.inbox [] =
      t.moment .intake
        (t.session.inbox ++ (Arrival.ofFrame t.world frame).toOption.toList) [] := by
    simp only [receive]
    cases Arrival.ofFrame t.world frame with
    | ok a => rfl
    | error d =>
      exact congrArg (fun as => t.moment .intake as []) (List.append_nil t.session.inbox).symm
  rw [hm]
  exact .single (.hear frame rfl)

theorem receive_backdrop (frame : String) :
    (t.receive frame).backdrop =
      { t.backdrop with inbox := (t.receive frame).session.inbox } := by
  simp only [receive]
  split <;> rfl

theorem receive_world (frame : String) : (t.receive frame).world = t.world := by
  rw [receive]
  split <;> rfl

theorem receiveFrames_world (frames : List String) : (frames.foldl receive t).world = t.world :=
  foldl_keeps t world receive_world frames

theorem receiveFrames_backdrop (frames : List String) :
    (frames.foldl receive t).backdrop =
      { t.backdrop with inbox := (frames.foldl receive t).session.inbox } := by
  induction frames generalizing t with
  | nil => rfl
  | cons frame frames ih =>
    rw [List.foldl_cons, ih (t.receive frame), receive_backdrop]

theorem receiveFrames_trail (frames : List String) :
    Trail (t.moment .intake t.session.inbox []) (frames.map .hear)
      ((frames.foldl receive t).moment .intake (frames.foldl receive t).session.inbox []) := by
  induction frames generalizing t with
  | nil => exact .nil
  | cons frame frames ih => exact .trans (receive_trail t frame) (ih (t.receive frame))

end

end Turn

theorem Lane.next_frames (l : Lane) : l.next.2.frames = l.frames := by
  simp only [next]
  split
  · rfl
  · rename_i hw
    simp [frames, hw]

theorem Link.sceneSend_ok {l l' : Link} {frame : String} (h : l.sceneSend frame = .ok l') :
    l'.toHost.frames = l.toHost.frames ++ [frame] := by
  simp only [sceneSend, Lane.send?] at h
  split at h
  · rename_i lane hs
    split at hs
    · cases hs
      cases h
      exact (List.append_assoc _ _ _).symm
    · cases hs
  · cases h

theorem Outbox.flush_ok {o o' : Outbox} {l l' : Link} {ops : List Operation}
    {queries : List Request} {f : Option Flushed} (h : o.flush l ops queries = .ok (f, o', l')) :
    f = none ∧ l' = l ∧ Batch.isEmpty ⟨o.next, ops, queries⟩ = true ∨
      f.isSome = true ∧
        l'.toHost.frames = l.toHost.frames ++ [Batch.text ⟨o.next, ops, queries⟩] := by
  simp only [flush, bind, Except.bind] at h
  split at h
  · rename_i he
    cases h
    rw [Bool.and_eq_true] at he
    exact .inl ⟨rfl, rfl, he.1⟩
  · split at h
    · cases h
    · split at h
      · cases h
      · rename_i hs
        cases h
        exact .inr ⟨rfl, Link.sceneSend_ok hs⟩

namespace Turn

def told (t : Turn κ σ) : Session κ σ :=
  { t.session.setWorld { t.world with
      changes := {}, queries := (t.world.queries.takeOutgoing t.report.tick).2 } with
    replica := (t.session.replica.sync t.world.changes t.world.store).2 }

theorem flush_eq (t : Turn κ σ) :
    t.flush = match t.session.outbox.flush t.session.link t.batch.ops t.batch.queries with
      | .ok (some f, outbox, link) =>
        (.ok { t.report with flushed := some f }, { t.told with outbox, link }.log f.report)
      | .ok (none, outbox, link) =>
        (.ok { t.report with flushed := none }, { t.told with outbox, link })
      | .error f => (.error f, t.told) := by
  cases hr : t.session.outbox.flush t.session.link t.batch.ops t.batch.queries with
  | error f =>
    simp only [batch] at hr
    simp only [flush, Session.setWorld, Queries.takeOutgoing, hr]
    rfl
  | ok r =>
    simp only [batch] at hr
    obtain ⟨f | f, o, l⟩ := r
    · simp only [flush, Session.setWorld, Queries.takeOutgoing, hr]
      rfl
    · simp only [flush, Session.setWorld, Queries.takeOutgoing, hr]
      rfl

theorem flush_world (t : Turn κ σ) :
    t.flush.2.world = { t.world with
      changes := {}, queries := (t.world.queries.takeOutgoing t.report.tick).2 } := by
  rw [flush_eq]
  split <;> rfl

theorem flush_replica (t : Turn κ σ) :
    t.flush.2.replica = (t.session.replica.sync t.world.changes t.world.store).2 := by
  rw [flush_eq]
  split <;> rfl

theorem flush_frames (t : Turn κ σ) :
    t.flush.2.link.toHost.frames =
      t.session.link.toHost.frames ++ (t.telling.sent?.map Batch.text).toList := by
  rw [telling, flush_eq]
  cases hf : t.session.outbox.flush t.session.link t.batch.ops t.batch.queries with
  | error f => exact (List.append_nil _).symm
  | ok r =>
    obtain ⟨f, o, l⟩ := r
    obtain ⟨rfl, rfl, _⟩ | ⟨hs, hl⟩ := Outbox.flush_ok hf
    · exact (List.append_nil _).symm
    · obtain ⟨f, rfl⟩ := Option.isSome_iff_exists.mp hs
      exact hl

theorem flush_none {t : Turn κ σ} (h : t.flush.1.map (·.flushed) = .ok none) :
    t.batch.isEmpty = true := by
  rw [flush_eq] at h
  cases hf : t.session.outbox.flush t.session.link t.batch.ops t.batch.queries with
  | error f => rw [hf] at h; cases h
  | ok r =>
    obtain ⟨f, o, l⟩ := r
    obtain ⟨_, _, he⟩ | ⟨hs, _⟩ := Outbox.flush_ok hf
    · exact he
    · obtain ⟨f, rfl⟩ := Option.isSome_iff_exists.mp hs
      rw [hf] at h
      cases h

theorem flush_step (t : Turn κ σ) (hn : t.report.tick = t.world.tick) :
    Step (t.moment .work [] []) t.telling
      { world := t.flush.2.world
        replica := t.flush.2.replica
        phase := if t.flush.1.isOk then .rest else .over
        frames := t.flush.2.link.toHost.frames } := by
  have hk : (t.flush.1.map (·.flushed)).isOk = t.flush.1.isOk := by
    cases t.flush.1 <;> rfl
  rw [flush_world, flush_replica, flush_frames, hn, ← hk, telling]
  have hr := flush_none (t := t)
  generalize t.flush.1.map (·.flushed) = result at hr ⊢
  exact .flush (m := t.moment .work [] []) t.session.outbox.next result rfl rfl rfl hr

end Turn

namespace Session

def moment (s : Session κ σ) : Moment κ where
  world := s.world
  replica := s.replica
  inbox := if s.isFailed then [] else s.inbox
  phase := if s.isFailed then .over else .rest
  frames := s.link.toHost.frames

theorem moment_phase (s : Session κ σ) : s.moment.phase = .rest ∨ s.moment.phase = .over := by
  simp only [moment]
  split
  · exact .inr rfl
  · exact .inl rfl

theorem moment_idle (s : Session κ σ) : s.moment.phase ≠ .intake ∧ s.moment.phase ≠ .work := by
  obtain hp | hp := s.moment_phase <;> simp [hp]

/-- A session in which a tick begins, with the waiting frames taken out of the link. -/
def opened (s : Session κ σ) : Turn κ σ :=
  let t := Turn.begin s
  { t with session.link.toScene := s.link.toScene.takeAll.2 }

theorem receiveAll_begin (s : Session κ σ) :
    (Turn.begin s).receiveAll = s.link.toScene.waiting.foldl Turn.receive s.opened := rfl

/-- A session in the middle of a tick, when the messages of the host have been dealt with. -/
def dispatched (b : Behaviour κ σ) (s : Session κ σ) : Turn κ σ :=
  (Turn.begin s).receiveAll.dispatch b

/-- A session in the middle of a tick, when all code has been at work. -/
def worked (b : Behaviour κ σ) (dt : Binary64) (s : Session κ σ) : Turn κ σ :=
  (((Turn.begin s).receiveAll.dispatch b).expire b).update b dt

theorem worked_backdrop (b : Behaviour κ σ) (dt : Binary64) (s : Session κ σ) :
    (s.worked b dt).backdrop = { s.opened.backdrop with inbox := [] } := by
  rw [worked, Turn.update_backdrop, Turn.expire_backdrop, Turn.dispatch_backdrop,
    receiveAll_begin, Turn.receiveFrames_backdrop]

theorem dispatched_backdrop (b : Behaviour κ σ) (s : Session κ σ) :
    (s.dispatched b).backdrop = { s.opened.backdrop with inbox := [] } := by
  rw [dispatched, Turn.dispatch_backdrop, receiveAll_begin, Turn.receiveFrames_backdrop]

theorem intake_trail {s : Session κ σ} (hf : s.failure = none) :
    Trail s.moment (.begin :: s.link.toScene.waiting.map .hear)
      ((Turn.begin s).receiveAll.moment .intake (Turn.begin s).receiveAll.session.inbox []) := by
  have hm : s.moment =
      { world := s.world, replica := s.replica, inbox := s.inbox,
        frames := s.link.toHost.frames } := by
    simp [moment, isFailed, hf]
  have hx : Step s.moment .begin (s.opened.moment .intake s.inbox []) := by
    rw [hm]
    exact .begin rfl
  rw [receiveAll_begin]
  exact .cons hx (Turn.receiveFrames_trail s.opened s.link.toScene.waiting)

theorem dispatched_trail (b : Behaviour κ σ) {s : Session κ σ} (hf : s.failure = none) :
    Trail s.moment (.begin :: s.link.toScene.waiting.map .hear
      ++ (Turn.begin s).receiveAll.dispatchDeeds b) ((s.dispatched b).moment .work [] []) :=
  (intake_trail hf).trans (Turn.dispatch_trail b _)

/-- What happens in a tick until the host is told. -/
def workDeeds (b : Behaviour κ σ) (dt : Binary64) (s : Session κ σ) : History κ :=
  let t := (Turn.begin s).receiveAll
  t.dispatchDeeds b ++ (t.dispatch b).expireDeeds b ++ ((t.dispatch b).expire b).updateDeeds b dt

theorem work_trail (b : Behaviour κ σ) (dt : Binary64) (s : Session κ σ) :
    Trail ((Turn.begin s).receiveAll.moment .intake (Turn.begin s).receiveAll.session.inbox [])
      (s.workDeeds b dt) ((s.worked b dt).moment .work [] []) :=
  .trans (.trans (Turn.dispatch_trail b _) (Turn.expire_trail b _)) (Turn.update_trail b _ dt)

theorem stepDeeds_dry (b : Behaviour κ σ) (dt : Binary64) {s : Session κ σ}
    (hd : (Turn.begin s).receiveAll.session.link.toScene.isDry = true) :
    s.stepDeeds b dt = .begin :: s.link.toScene.waiting.map .hear ++ [.lose] := by
  simp only [stepDeeds, if_pos hd]

theorem stepDeeds_wet (b : Behaviour κ σ) (dt : Binary64) {s : Session κ σ}
    (hd : ¬ (Turn.begin s).receiveAll.session.link.toScene.isDry = true) :
    s.stepDeeds b dt = (.begin :: s.link.toScene.waiting.map .hear ++ s.workDeeds b dt)
      ++ [(s.worked b dt).telling] := by
  simp only [stepDeeds, if_neg hd]
  exact (List.append_assoc ..).symm

theorem step_dry (b : Behaviour κ σ) (dt : Binary64) {s : Session κ σ}
    (hd : (Turn.begin s).receiveAll.session.link.toScene.isDry = true) :
    s.step b dt = (.error (.link .hostGone), (Turn.begin s).receiveAll.session) := by
  rw [step, if_pos hd]

theorem step_wet (b : Behaviour κ σ) (dt : Binary64) {s : Session κ σ}
    (hd : ¬ (Turn.begin s).receiveAll.session.link.toScene.isDry = true) :
    s.step b dt = (s.worked b dt).flush := by
  rw [step, if_neg hd]
  rfl

theorem flush_session (t : Turn κ σ) :
    t.flush.2 = { t.session with
      stage := t.flush.2.stage, outbox := t.flush.2.outbox, replica := t.flush.2.replica
      link := t.flush.2.link } := by
  rw [Turn.flush_eq]
  split <;> rfl

theorem step_failure (b : Behaviour κ σ) (dt : Binary64) (s : Session κ σ) :
    (s.step b dt).2.failure = s.failure := by
  by_cases hd : (Turn.begin s).receiveAll.session.link.toScene.isDry = true
  · rw [step_dry b dt hd]
    exact congrArg Backdrop.failure (Turn.receiveFrames_backdrop s.opened s.link.toScene.waiting)
  · rw [step_wet b dt hd, flush_session]
    exact congrArg Backdrop.failure (worked_backdrop b dt s)

theorem not_dry {b : Behaviour κ σ} {dt : Binary64} {s : Session κ σ}
    (hk : (s.step b dt).1.isOk = true) :
    ¬ (Turn.begin s).receiveAll.session.link.toScene.isDry = true := by
  intro hd
  rw [step_dry b dt hd] at hk
  cases hk

theorem step_isOk {b : Behaviour κ σ} {dt : Binary64} {s : Session κ σ}
    (hk : (s.step b dt).1.isOk = true) : s.step b dt = (s.worked b dt).flush :=
  step_wet b dt (not_dry hk)

theorem step_inbox {b : Behaviour κ σ} {dt : Binary64} {s : Session κ σ}
    (hk : (s.step b dt).1.isOk = true) : (s.step b dt).2.inbox = [] := by
  rw [step_isOk hk, flush_session]
  exact congrArg Backdrop.inbox (worked_backdrop b dt s)

theorem tick_moment (b : Behaviour κ σ) (dt : Binary64) {s : Session κ σ}
    (hf : s.failure = none) :
    (s.tick b dt).2.moment =
      { world := (s.step b dt).2.world
        replica := (s.step b dt).2.replica
        phase := if (s.step b dt).1.isOk then .rest else .over
        frames := (s.step b dt).2.link.toHost.frames } := by
  have hs := (step_failure b dt s).trans hf
  have hi : (s.step b dt).1.isOk = true → (s.step b dt).2.inbox = [] := step_inbox
  rw [tick, hf]
  rcases hr : s.step b dt with ⟨r | r, u⟩
  · rfl
  · have hu : u.failure = none := by
      rw [hr] at hs
      exact hs
    have hn : u.inbox = [] := by
      rw [hr] at hi
      exact hi rfl
    change moment { u with stats := u.stats.count r } = _
    simp only [moment, isFailed, hu, hn]
    rfl

theorem telling_step (b : Behaviour κ σ) (dt : Binary64) {s : Session κ σ}
    (hf : s.failure = none)
    (hd : ¬ (Turn.begin s).receiveAll.session.link.toScene.isDry = true) :
    Step ((s.worked b dt).moment .work [] []) (s.worked b dt).telling
      (s.tick b dt).2.moment := by
  have hb := worked_backdrop b dt s
  have hn : (s.worked b dt).report.tick = (s.worked b dt).world.tick := by
    have h₁ := congrArg Backdrop.tick hb
    have h₂ := congrArg Backdrop.now hb
    exact h₁.trans h₂.symm
  rw [tick_moment b dt hf, step_wet b dt hd]
  exact (s.worked b dt).flush_step hn

theorem tick_trail (b : Behaviour κ σ) (dt : Binary64) {s : Session κ σ} (hf : s.failure = none) :
    Trail s.moment (s.stepDeeds b dt) (s.tick b dt).2.moment := by
  by_cases hd : (Turn.begin s).receiveAll.session.link.toScene.isDry = true
  · rw [tick_moment b dt hf, step_dry b dt hd, stepDeeds_dry b dt hd]
    exact .trans (intake_trail hf) (.single (.lose rfl))
  · rw [stepDeeds_wet b dt hd]
    have hw := (intake_trail hf).trans (work_trail b dt s)
    exact .snoc hw (telling_step b dt hf hd)

theorem tick_isOk {b : Behaviour κ σ} {dt : Binary64} {s : Session κ σ}
    (hk : (s.tick b dt).1.isOk = true) : s.failure = none ∧ (s.step b dt).1.isOk = true := by
  cases hf : s.failure with
  | some f =>
    rw [tick, hf] at hk
    cases hk
  | none =>
    refine ⟨rfl, ?_⟩
    rw [tick, hf] at hk
    rcases hr : s.step b dt with ⟨r | r, u⟩
    · rw [hr] at hk
      cases hk
    · rfl

theorem isOk_of_failure {b : Behaviour κ σ} {dt : Binary64} {s : Session κ σ}
    (hf : (s.tick b dt).2.failure = none) : (s.tick b dt).1.isOk = true := by
  rw [tick] at hf ⊢
  split at hf
  · rename_i f hs
    rw [hs] at hf
    cases hf
  · rcases hr : s.step b dt with ⟨f | r, u⟩
    · rw [hr] at hf
      cases hf
    · rfl

theorem act_trail (s : Session κ σ) (a : Action κ) :
    Trail s.moment [.act a (s.world.perform a).1] (s.setWorld (s.world.perform a).2).moment :=
  .single (.act a s.moment_idle.1)

theorem tick_failed {b : Behaviour κ σ} {dt : Binary64} {s : Session κ σ}
    (hf : s.isFailed = true) : (s.tick b dt).2 = s := by
  obtain ⟨f, hf⟩ := Option.isSome_iff_exists.mp hf
  rw [tick, hf]

/-- A move is an action or a tick, or it has nothing to do with the scene. -/
theorem apply_cases (b : Behaviour κ σ) (s : Session κ σ) (m : Move κ σ) :
    (∃ a, m = .act a) ∨ (∃ dt, m = .tick dt) ∨ s.deeds b m = [] ∧
      ∃ memory journal paused link,
        s.apply b m = { s with stage := { s.stage with memory, journal }, paused, link } ∧
          link.toHost.frames = s.link.toHost.frames ∧
          link.toScene.hasReceiver = s.link.toScene.hasReceiver := by
  cases m with
  | act a => exact .inl ⟨a, rfl⟩
  | tick dt => exact .inr (.inl ⟨dt, rfl⟩)
  | remember memory => exact .inr (.inr ⟨rfl, _, _, _, _, rfl, rfl, rfl⟩)
  | pause =>
    rw [apply, pause]
    split <;> exact .inr (.inr ⟨rfl, _, _, _, _, rfl, rfl, rfl⟩)
  | resume =>
    rw [apply, resume]
    split <;> exact .inr (.inr ⟨rfl, _, _, _, _, rfl, rfl, rfl⟩)
  | send frame =>
    rw [apply, Link.hostSend, Lane.send?]
    by_cases hr : s.link.toScene.hasReceiver = true
    · rw [if_pos hr]
      exact .inr (.inr ⟨rfl, _, _, _, _, rfl, rfl, rfl⟩)
    · rw [if_neg hr]
      exact .inr (.inr ⟨rfl, _, _, _, _, rfl, rfl, rfl⟩)
  | receive =>
    exact .inr (.inr ⟨rfl, _, _, _, _, rfl, Lane.next_frames s.link.toHost, rfl⟩)
  | mute => exact .inr (.inr ⟨rfl, _, _, _, _, rfl, rfl, rfl⟩)
  | ignore => exact .inr (.inr ⟨rfl, _, _, _, _, rfl, rfl, rfl⟩)

theorem apply_trail (b : Behaviour κ σ) (s : Session κ σ) (m : Move κ σ) :
    Trail s.moment (s.deeds b m) (s.apply b m).moment := by
  obtain ⟨a, rfl⟩ | ⟨dt, rfl⟩ | ⟨hd, memory, journal, paused, link, he, hl, _⟩ :=
    apply_cases b s m
  · exact act_trail s a
  · simp only [deeds, apply]
    by_cases hf : s.isFailed = true
    · rw [if_pos hf, tick_failed hf]
      exact .nil
    · rw [if_neg hf]
      exact tick_trail b dt (Option.not_isSome_iff_eq_none.mp hf)
  · have hm : (s.apply b m).moment = s.moment := by
      rw [he]
      simp only [moment, hl]
      rfl
    rw [hd, hm]
    exact .nil

theorem history_trail (b : Behaviour κ σ) (s : Session κ σ) (ms : List (Move κ σ)) :
    Trail s.moment (s.history b ms) (s.after b ms).moment := by
  induction ms generalizing s with
  | nil => exact .nil
  | cons m ms ih => exact .trans (apply_trail b s m) (ih (s.apply b m))

theorem start_moment (config : Config) (types : Registry) (memory : σ) :
    (start config ({ types } : World κ) memory).moment = .fresh types := rfl

theorem start_trail (b : Behaviour κ σ) (config : Config) (types : Registry) (memory : σ)
    (moves : List (Move κ σ)) :
    Trail (.fresh types) ((start config ({ types } : World κ) memory).history b moves)
      ((start config ({ types } : World κ) memory).after b moves).moment := by
  rw [← start_moment config types memory]
  exact history_trail b _ moves

theorem history_append (b : Behaviour κ σ) (s : Session κ σ) (ms ns : List (Move κ σ)) :
    s.history b (ms ++ ns) = s.history b ms ++ (s.after b ms).history b ns := by
  induction ms generalizing s with
  | nil => rfl
  | cons m ms ih => simp only [List.cons_append, history, ih, List.append_assoc, after, List.foldl]

theorem deeds_wet (b : Behaviour κ σ) (dt : Binary64) {s : Session κ σ} (hf : s.failure = none)
    (hd : ¬ (Turn.begin s).receiveAll.session.link.toScene.isDry = true) :
    s.deeds b (.tick dt) = (.begin :: s.link.toScene.waiting.map .hear ++ s.workDeeds b dt)
      ++ [(s.worked b dt).telling] := by
  have hn : ¬ s.isFailed = true := by simp [isFailed, hf]
  rw [deeds, if_neg hn, stepDeeds_wet b dt hd]

theorem history_tick {b : Behaviour κ σ} {s : Session κ σ} {ms : List (Move κ σ)} {dt : Binary64}
    (hk : ((s.after b ms).tick b dt).1.isOk = true) :
    s.history b (ms ++ [.tick dt]) =
      (s.history b ms ++ (.begin :: (s.after b ms).link.toScene.waiting.map .hear
        ++ (s.after b ms).workDeeds b dt)) ++ [((s.after b ms).worked b dt).telling] := by
  obtain ⟨hf, hk⟩ := tick_isOk hk
  rw [history_append, history, deeds_wet b dt hf (not_dry hk), history, List.append_nil]
  exact (List.append_assoc ..).symm

theorem after_append (b : Behaviour κ σ) (s : Session κ σ) (ms ns : List (Move κ σ)) :
    s.after b (ms ++ ns) = (s.after b ms).after b ns := List.foldl_append

end Session

end Diorama
