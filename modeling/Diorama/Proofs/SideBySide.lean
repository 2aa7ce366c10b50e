import Diorama.Proofs.Fates
import Diorama.Proofs.RunningOrder

/-!
Two sessions side by side. If code does alike in both wherever their stages are alike, the sessions
do not come apart: they hear and say the same, and the same code is called in the same order.
-/

namespace Diorama

/-- How two sessions may differ, and what is looked at in their histories. -/
structure Likeness (κ σ σ' β : Type) where
  changes : Changes → Changes → Prop
  memory : σ → σ' → Prop
  view : Happening κ → Option β
  told : changes {} {}
  sync {c c' : Changes} (h : changes c c') (r : Replica) (s : Store) : r.sync c' s = r.sync c s
  flush {w : World κ} {c : Changes} (h : changes w.changes c) (batch : Batch)
    (result : Except Failure (Option Flushed)) :
    view (.flush { w with changes := c } batch result) = view (.flush w batch result)

/-- The same but for the calls that went wrong. -/
def Report.Alike (r r' : Report) : Prop :=
  ∃ failures handlerFailures, r' = { r with failures, handlerFailures }

inductive Report.AlikeResult : Except Failure Report → Except Failure Report → Prop
  | ok {r r' : Report} (h : r.Alike r') : AlikeResult (.ok r) (.ok r')
  | error (f : Failure) : AlikeResult (.error f) (.error f)

variable {κ σ σ' β : Type}

namespace Likeness

variable (L : Likeness κ σ σ' β)

/-- The log tells of calls that went wrong, so it may differ too. -/
def OfStage (s : Stage κ σ) (s' : Stage κ σ') : Prop :=
  ∃ changes memory journal, L.changes s.world.changes changes ∧ L.memory s.memory memory ∧
    s' = ⟨{ s.world with changes }, memory, journal⟩

def OfSession (s : Session κ σ) (s' : Session κ σ') : Prop :=
  ∃ stage systemFailures handlerFailures, L.OfStage s.stage stage ∧
    s' = { s with stage, stats := { s.stats with systemFailures, handlerFailures } }

structure OfTurn (t : Turn κ σ) (t' : Turn κ σ') : Prop where
  session : L.OfSession t.session t'.session
  report : t.report.Alike t'.report

def seen (h : History κ) : List β := h.filterMap L.view

theorem seen_append {g g' h h' : History κ} (hg : L.seen g = L.seen g')
    (hh : L.seen h = L.seen h') : L.seen (g ++ h) = L.seen (g' ++ h') := by
  rw [seen, List.filterMap_append, seen, List.filterMap_append]
  exact congrArg₂ _ hg hh

theorem seen_cons (x : Happening κ) {h h' : History κ} (hh : L.seen h = L.seen h') :
    L.seen (x :: h) = L.seen (x :: h') := by
  rw [seen, List.filterMap_cons, seen, List.filterMap_cons]
  cases L.view x with
  | none => exact hh
  | some b => exact congrArg (b :: ·) hh

theorem seen_flush {w : World κ} {c : Changes} (h : L.changes w.changes c) (batch : Batch)
    (result : Except Failure (Option Flushed)) :
    L.seen [.flush w batch result] = L.seen [.flush { w with changes := c } batch result] := by
  rw [seen, List.filterMap_cons, seen, List.filterMap_cons, L.flush h]

/-- Called on stages that are alike, code leaves such stages behind and is the same code from then
on. How its calls end may differ. -/
structure OfCode (b : Behaviour κ σ) (b' : Behaviour κ σ') : Prop where
  seen {s : Stage κ σ} {s' : Stage κ σ'} (hs : L.OfStage s s') (code : κ) (o : Occasion) :
    L.seen (s.deeds b code o) = L.seen (s'.deeds b' code o)
  self {s : Stage κ σ} {s' : Stage κ σ'} (hs : L.OfStage s s') (code : κ) (o : Occasion) :
    (s'.call b' code o).self = (s.call b code o).self
  stage {s : Stage κ σ} {s' : Stage κ σ'} (hs : L.OfStage s s') (code : κ) (o : Occasion) :
    L.OfStage (s.call b code o).stage (s'.call b' code o).stage

/-- The same is done to both sessions from outside, except to their worlds. -/
inductive OfMove : Move κ σ → Move κ σ' → Prop
  | remember {memory : σ} {memory' : σ'} (h : L.memory memory memory') :
      OfMove (.remember memory) (.remember memory')
  | pause : OfMove .pause .pause
  | resume : OfMove .resume .resume
  | tick (dt : Binary64) : OfMove (.tick dt) (.tick dt)
  | send (frame : String) : OfMove (.send frame) (.send frame)
  | receive : OfMove .receive .receive
  | mute : OfMove .mute .mute
  | ignore : OfMove .ignore .ignore

variable {L}

namespace OfStage

variable {s : Stage κ σ} {s' : Stage κ σ'}

theorem memory (h : L.OfStage s s') : L.memory s.memory s'.memory := by
  obtain ⟨changes, memory, journal, _, hm, rfl⟩ := h
  exact hm

theorem log_left (h : L.OfStage s s') (e : Event) : L.OfStage (s.log e) s' := h

theorem log_right (h : L.OfStage s s') (e : Event) : L.OfStage s (s'.log e) := by
  obtain ⟨changes, memory, journal, hc, hm, rfl⟩ := h
  exact ⟨changes, memory, _, hc, hm, rfl⟩

end OfStage

namespace OfSession

variable {s : Session κ σ} {s' : Session κ σ'}

theorem stage (h : L.OfSession s s') : L.OfStage s.stage s'.stage := by
  obtain ⟨stage, m, n, hs, rfl⟩ := h
  exact hs

theorem link (h : L.OfSession s s') : s'.link = s.link := by
  obtain ⟨stage, m, n, _, rfl⟩ := h
  rfl

end OfSession

theorem OfTurn.log {t : Turn κ σ} {t' : Turn κ σ'} (h : L.OfTurn t t') (e : Event) :
    L.OfTurn (t.log e) (t'.log e) := by
  obtain ⟨s, r⟩ := t
  obtain ⟨s', r'⟩ := t'
  obtain ⟨⟨stage, m, n, hs, rfl⟩, hr⟩ := h
  exact ⟨⟨_, _, _, (hs.log_left e).log_right e, rfl⟩, hr⟩

namespace OfCode

variable {b : Behaviour κ σ} {b' : Behaviour κ σ'} (hb : L.OfCode b b')
include hb

section
variable {s : Stage κ σ} {s' : Stage κ σ'} (hs : L.OfStage s s')
include hs

theorem schedule_seen (dt : Binary64) (ms : Members (System κ)) :
    L.seen (Schedule.deeds b dt ms s) = L.seen (Schedule.deeds b' dt ms s') := by
  induction ms generalizing s s' with
  | nil => rfl
  | cons m ms ih =>
    rw [Schedule.deeds, Schedule.deeds]
    exact L.seen_cons _ (L.seen_append (hb.seen hs _ _) (ih (hb.stage hs _ _)))

theorem dispatch_seen (e : HostEvent) (ms : Members (Subscription κ)) :
    L.seen (Dispatch.deeds b e ms s) = L.seen (Dispatch.deeds b' e ms s') := by
  induction ms generalizing s s' with
  | nil => rfl
  | cons m ms ih =>
    rw [Dispatch.deeds, Dispatch.deeds]
    split
    · exact L.seen_cons _ (L.seen_append (hb.seen hs _ _) (ih (hb.stage hs _ _)))
    · exact ih hs

theorem pass (scene : String) (dt : Binary64) (ms : Members (System κ)) :
    (Schedule.pass b' scene dt ms s').members = (Schedule.pass b scene dt ms s).members ∧
      L.OfStage (Schedule.pass b scene dt ms s).stage (Schedule.pass b' scene dt ms s').stage := by
  induction ms generalizing s s' with
  | nil => exact ⟨rfl, hs⟩
  | cons m ms ih =>
    have hr := hb.stage hs m.2.code (.update dt)
    have rest {u : Stage κ σ} {u' : Stage κ σ'} (hu : L.OfStage u u') := And.imp_left
      (congrArg ((m.1, { m.2 with code := (s.call b m.2.code (.update dt)).self }) :: ·)) (ih hu)
    simp only [Schedule.pass, hb.self hs]
    split <;> split
    · exact rest hr
    · exact rest (hr.log_left _)
    · exact rest (hr.log_right _)
    · exact rest ((hr.log_left _).log_right _)

theorem run (scene : String) (dt : Binary64) (ms : Members (System κ)) :
    (Schedule.run b' scene dt ms s').members = (Schedule.run b scene dt ms s).members ∧
      L.OfStage (Schedule.run b scene dt ms s).stage (Schedule.run b' scene dt ms s').stage := by
  obtain ⟨c, v, j, hc, hv, rfl⟩ := hs
  let systems := (s.world.systems.call Schedule.place ms).2
  exact hb.pass (s := { s with world := { s.world with systems } }) ⟨c, v, j, hc, hv, rfl⟩ scene
    dt _

theorem deliver (scene : String) (e : HostEvent) (ms : Members (Subscription κ)) :
    (Dispatch.deliver b' scene e ms s').members = (Dispatch.deliver b scene e ms s).members ∧
      L.OfStage (Dispatch.deliver b scene e ms s).stage
        (Dispatch.deliver b' scene e ms s').stage := by
  induction ms generalizing s s' with
  | nil => exact ⟨rfl, hs⟩
  | cons m ms ih =>
    have hr := hb.stage hs m.2.code (.event e)
    have rest {u : Stage κ σ} {u' : Stage κ σ'} (hu : L.OfStage u u') := And.imp_left
      (congrArg ((m.1, { m.2 with code := (s.call b m.2.code (.event e)).self }) :: ·)) (ih hu)
    simp only [Dispatch.deliver, hb.self hs]
    by_cases hw : m.2.wants e = true
    · rw [if_pos hw, if_pos hw]
      split <;> split
      · exact rest hr
      · exact rest (hr.log_left _)
      · exact rest (hr.log_right _)
      · exact rest ((hr.log_left _).log_right _)
    · rw [if_neg hw, if_neg hw]
      exact ⟨congrArg (_ :: ·) (ih hs).1, (ih hs).2⟩

end

section
variable {t : Turn κ σ} {t' : Turn κ σ'} (ht : L.OfTurn t t')
include ht

theorem complete (id : RequestId) (code : κ) (o : Outcome) :
    L.OfTurn (t.complete b id code o) (t'.complete b' id code o) := by
  obtain ⟨s, r⟩ := t
  obtain ⟨s', r'⟩ := t'
  obtain ⟨⟨stage, m, n, hs, rfl⟩, ⟨fs, k, rfl⟩⟩ := ht
  have hr := hb.stage hs code (.outcome o)
  simp only [Turn.complete]
  split <;> split
  · exact ⟨⟨_, _, _, (hr.log_left _).log_right _, rfl⟩, ⟨_, _, rfl⟩⟩
  · exact ⟨⟨_, _, _, hr.log_left _, rfl⟩, ⟨_, _, rfl⟩⟩
  · exact ⟨⟨_, _, _, hr.log_right _, rfl⟩, ⟨_, _, rfl⟩⟩
  · exact ⟨⟨_, _, _, hr, rfl⟩, ⟨_, _, rfl⟩⟩

theorem handle (a : Arrival) : L.OfTurn (t.handle b a) (t'.handle b' a) := by
  obtain ⟨s, r⟩ := t
  obtain ⟨s', r'⟩ := t'
  obtain ⟨⟨_, m, n, ⟨c, v, j, hc, hv, rfl⟩, rfl⟩, ⟨fs, k, rfl⟩⟩ := ht
  have hs : L.OfStage s.stage ⟨{ s.stage.world with changes := c }, v, j⟩ := ⟨c, v, j, hc, hv, rfl⟩
  cases a with
  | event e =>
    simp only [Turn.handle, Turn.world, Session.world]
    have ha : World.isAlive { s.stage.world with changes := c } = s.stage.world.isAlive := rfl
    rw [ha]
    cases e.entity.filter fun x => !s.stage.world.isAlive x with
    | some x => exact ⟨⟨_, _, _, (hs.log_left _).log_right _, rfl⟩, ⟨_, _, rfl⟩⟩
    | none =>
      obtain ⟨hm, hd⟩ := hb.deliver hs s.config.sceneId e s.subscriptions
      simp only [Turn.deliver, hm]
      exact ⟨⟨_, _, _, hd, rfl⟩, ⟨_, _, rfl⟩⟩
  | response id o =>
    simp only [Turn.handle, Turn.world, Session.world]
    rcases s.stage.world.queries.resolve id with ⟨_ | code, queries⟩
    · exact ⟨⟨_, _, _, (hs.log_left _).log_right _, rfl⟩, ⟨_, _, rfl⟩⟩
    · have hq : L.OfTurn ⟨s.setWorld { s.stage.world with queries }, r⟩
          ⟨Session.setWorld { s with
            stage := ⟨{ s.stage.world with changes := c }, v, j⟩
            stats := { s.stats with systemFailures := m, handlerFailures := n } }
            { s.stage.world with changes := c, queries },
            { r with failures := fs, handlerFailures := k }⟩ :=
        ⟨⟨_, m, n, ⟨c, v, j, hc, hv, rfl⟩, rfl⟩, ⟨fs, k, rfl⟩⟩
      obtain ⟨hs, fs, k, hr⟩ := hb.complete hq id code o
      exact ⟨hs, ⟨_, _, congrArg (fun r : Report => { r with resolved := r.resolved + 1 }) hr⟩⟩

theorem timeOut (q : RequestId × κ) : L.OfTurn (t.timeOut b q) (t'.timeOut b' q) := by
  obtain ⟨hs, fs, k, hr⟩ := hb.complete
    (ht.log (.say .debug Target.session s!"Query '{q.1.text}' timed out")) q.1 q.2 .timedOut
  exact ⟨hs, ⟨_, _, congrArg (fun r : Report => { r with timedOut := r.timedOut + 1 }) hr⟩⟩

theorem handle_seen (a : Arrival) : L.seen (t.handleDeeds b a) = L.seen (t'.handleDeeds b' a) := by
  obtain ⟨s, r⟩ := t
  obtain ⟨s', r'⟩ := t'
  obtain ⟨⟨_, m, n, ⟨c, v, j, hc, hv, rfl⟩, rfl⟩, ⟨fs, k, rfl⟩⟩ := ht
  cases a with
  | event e =>
    simp only [Turn.handleDeeds, Turn.world, Session.world]
    have ha : World.isAlive { s.stage.world with changes := c } = s.stage.world.isAlive := rfl
    rw [ha]
    cases e.entity.filter fun x => !s.stage.world.isAlive x with
    | some x => rfl
    | none => exact L.seen_cons _ (hb.dispatch_seen ⟨c, v, j, hc, hv, rfl⟩ e s.subscriptions)
  | response id o =>
    simp only [Turn.handleDeeds, Turn.world, Session.world]
    rcases s.stage.world.queries.resolve id with ⟨_ | code, queries⟩
    · rfl
    · exact L.seen_cons _ (hb.seen (s := { s.stage with world := { s.stage.world with queries } })
        ⟨c, v, j, hc, hv, rfl⟩ code (.outcome o))

theorem timeOut_seen (q : RequestId × κ) :
    L.seen (t.timeOutDeeds b q) = L.seen (t'.timeOutDeeds b' q) :=
  L.seen_cons _ (hb.seen ht.session.stage q.2 (.outcome .timedOut))

omit hb in
theorem foldl {α : Type} {deal : Turn κ σ → α → Turn κ σ} {deal' : Turn κ σ' → α → Turn κ σ'}
    (hd : ∀ {t t'} a, L.OfTurn t t' → L.OfTurn (deal t a) (deal' t' a)) (as : List α) :
    L.OfTurn (as.foldl deal t) (as.foldl deal' t') := by
  induction as generalizing t t' with
  | nil => exact ht
  | cons a as ih => exact ih (hd a ht)

omit hb in
theorem along {α : Type} {deal : Turn κ σ → α → Turn κ σ} {deal' : Turn κ σ' → α → Turn κ σ'}
    {deeds : Turn κ σ → α → History κ} {deeds' : Turn κ σ' → α → History κ}
    (hd : ∀ {t t'} a, L.OfTurn t t' → L.OfTurn (deal t a) (deal' t' a))
    (hh : ∀ {t t'} a, L.OfTurn t t' → L.seen (deeds t a) = L.seen (deeds' t' a)) (as : List α) :
    L.seen (t.along deal deeds as) = L.seen (t'.along deal' deeds' as) := by
  induction as generalizing t t' with
  | nil => rfl
  | cons a as ih => exact L.seen_append (hh a ht) (ih (hd a ht))

theorem dispatch : L.OfTurn (t.dispatch b) (t'.dispatch b') ∧
    L.seen (t.dispatchDeeds b) = L.seen (t'.dispatchDeeds b') := by
  have hg : L.OfTurn t.gathered t'.gathered ∧ t'.session.inbox = t.session.inbox := by
    obtain ⟨s, r⟩ := t
    obtain ⟨s', r'⟩ := t'
    obtain ⟨⟨_, m, n, ⟨c, v, j, hc, hv, rfl⟩, rfl⟩, ⟨fs, k, rfl⟩⟩ := ht
    exact ⟨⟨⟨_, _, _, ⟨c, v, j, hc, hv, rfl⟩, rfl⟩, ⟨_, _, rfl⟩⟩, rfl⟩
  have ha := along hg.1 (fun a h => hb.handle h a) (fun a h => hb.handle_seen h a) t.session.inbox
  have hf := foldl hg.1 (fun a h => hb.handle h a) t.session.inbox
  rw [Turn.dispatchDeeds, Turn.dispatchDeeds, hg.2]
  refine ⟨?_, L.seen_cons _ ha⟩
  have he (t : Turn κ σ') :
      t.dispatch b' = t.session.inbox.foldl (Turn.handle b') t.gathered := rfl
  rw [he, hg.2]
  exact hf

theorem expire : L.OfTurn (t.expire b) (t'.expire b') ∧
    L.seen (t.expireDeeds b) = L.seen (t'.expireDeeds b') := by
  have hl : L.OfTurn t.lapsed.2 t'.lapsed.2 ∧ t'.lapsed.1 = t.lapsed.1 := by
    obtain ⟨s, r⟩ := t
    obtain ⟨s', r'⟩ := t'
    obtain ⟨⟨_, m, n, ⟨c, v, j, hc, hv, rfl⟩, rfl⟩, ⟨fs, k, rfl⟩⟩ := ht
    exact ⟨⟨⟨_, _, _, ⟨c, v, j, hc, hv, rfl⟩, rfl⟩, ⟨_, _, rfl⟩⟩, rfl⟩
  have ha := along hl.1 (fun q h => hb.timeOut h q) (fun q h => hb.timeOut_seen h q) t.lapsed.1
  have hf := foldl hl.1 (fun q h => hb.timeOut h q) t.lapsed.1
  rw [Turn.expireDeeds, Turn.expireDeeds, hl.2]
  refine ⟨?_, L.seen_cons _ ha⟩
  have he (t : Turn κ σ') : t.expire b' = t.lapsed.1.foldl (Turn.timeOut b') t.lapsed.2 := rfl
  rw [he, hl.2]
  exact hf

theorem update (dt : Binary64) : L.OfTurn (t.update b dt) (t'.update b' dt) ∧
    L.seen (t.updateDeeds b dt) = L.seen (t'.updateDeeds b' dt) := by
  obtain ⟨s, r⟩ := t
  obtain ⟨s', r'⟩ := t'
  obtain ⟨⟨_, m, n, ⟨c, v, j, hc, hv, rfl⟩, rfl⟩, ⟨fs, k, rfl⟩⟩ := ht
  have hs : L.OfStage s.stage ⟨{ s.stage.world with changes := c }, v, j⟩ := ⟨c, v, j, hc, hv, rfl⟩
  by_cases hp : s.paused = true
  · simp only [Turn.update, Turn.updateDeeds, if_pos hp]
    exact ⟨⟨⟨_, _, _, hs, rfl⟩, ⟨_, _, rfl⟩⟩, trivial⟩
  · let u : Turn κ σ := ⟨s, r⟩
    have hh := hb.schedule_seen (s := u.convened.2) ⟨c, v, j, hc, hv, rfl⟩ dt u.convened.1
    obtain ⟨hm, hd⟩ := hb.run hs s.config.sceneId dt s.systems
    simp only [Turn.update, Turn.updateDeeds, if_neg hp, hm]
    exact ⟨⟨⟨_, _, _, hd, rfl⟩, ⟨_, _, rfl⟩⟩, L.seen_cons _ hh⟩

omit hb in
theorem flush : Report.AlikeResult t.flush.1 t'.flush.1 ∧ L.OfSession t.flush.2 t'.flush.2 ∧
    L.seen [t.telling] = L.seen [t'.telling] := by
  obtain ⟨s, r⟩ := t
  obtain ⟨s', r'⟩ := t'
  obtain ⟨⟨_, m, n, ⟨c, v, j, hc, hv, rfl⟩, rfl⟩, ⟨fs, k, rfl⟩⟩ := ht
  have hr := L.sync hc s.replica s.stage.world.store
  rw [Turn.flush_eq, Turn.flush_eq, Turn.telling, Turn.telling, Turn.flush_eq, Turn.flush_eq]
  dsimp only [Turn.batch, Turn.told, Turn.world, Session.world]
  rw [hr]
  rcases s.outbox.flush s.link _ _ with f | ⟨f | f, outbox, link⟩
  · exact ⟨.error f, ⟨_, _, _, ⟨{}, v, j, L.told, hv, rfl⟩, rfl⟩, L.seen_flush hc _ _⟩
  · exact ⟨.ok ⟨_, _, rfl⟩, ⟨_, _, _, ⟨{}, v, j, L.told, hv, rfl⟩, rfl⟩, L.seen_flush hc _ _⟩
  · exact ⟨.ok ⟨_, _, rfl⟩, ⟨_, _, _, ⟨{}, v, _, L.told, hv, rfl⟩, rfl⟩, L.seen_flush hc _ _⟩

omit hb in
theorem receive (frame : String) : L.OfTurn (t.receive frame) (t'.receive frame) := by
  obtain ⟨s, r⟩ := t
  obtain ⟨s', r'⟩ := t'
  obtain ⟨⟨_, m, n, ⟨c, v, j, hc, hv, rfl⟩, rfl⟩, ⟨fs, k, rfl⟩⟩ := ht
  have hw : Arrival.ofFrame { s.stage.world with changes := c } frame =
      Arrival.ofFrame s.stage.world frame := rfl
  dsimp only [Turn.receive, Turn.world, Session.world]
  rw [hw]
  cases Arrival.ofFrame s.stage.world frame with
  | ok a => exact ⟨⟨_, _, _, ⟨c, v, j, hc, hv, rfl⟩, rfl⟩, ⟨_, _, rfl⟩⟩
  | error d => exact ⟨⟨_, _, _, ⟨c, v, _, hc, hv, rfl⟩, rfl⟩, ⟨_, _, rfl⟩⟩

end

section
variable {s : Session κ σ} {s' : Session κ σ'} (hs : L.OfSession s s')
include hs

omit hb in
theorem receiveAll : L.OfTurn (Turn.begin s).receiveAll (Turn.begin s').receiveAll ∧
    s'.link.toScene.waiting = s.link.toScene.waiting := by
  have ho : L.OfTurn s.opened s'.opened := by
    obtain ⟨_, m, n, ⟨c, v, j, hc, hv, rfl⟩, rfl⟩ := hs
    exact ⟨⟨_, _, _, ⟨c, v, j, hc, hv, rfl⟩, rfl⟩, ⟨_, _, rfl⟩⟩
  rw [Session.receiveAll_begin, Session.receiveAll_begin, hs.link]
  exact ⟨foldl ho (fun a h => receive h a) _, rfl⟩

theorem step (dt : Binary64) : Report.AlikeResult (s.step b dt).1 (s'.step b' dt).1 ∧
    L.OfSession (s.step b dt).2 (s'.step b' dt).2 ∧
      L.seen (s.stepDeeds b dt) = L.seen (s'.stepDeeds b' dt) := by
  obtain ⟨hr, hw⟩ := receiveAll hs
  have hl := hr.session.link
  by_cases hd : (Turn.begin s).receiveAll.session.link.toScene.isDry = true
  · rw [Session.step_dry b dt hd, Session.step_dry b' dt (hl ▸ hd), Session.stepDeeds_dry b dt hd,
      Session.stepDeeds_dry b' dt (hl ▸ hd), hw]
    exact ⟨.error _, hr.session, rfl⟩
  · obtain ⟨h₁, k₁⟩ := hb.dispatch hr
    obtain ⟨h₂, k₂⟩ := hb.expire h₁
    obtain ⟨h₃, k₃⟩ := hb.update h₂ dt
    obtain ⟨hk, hf, ht⟩ := flush h₃
    rw [Session.step_wet b dt hd, Session.step_wet b' dt (hl ▸ hd), Session.stepDeeds_wet b dt hd,
      Session.stepDeeds_wet b' dt (hl ▸ hd), hw]
    exact ⟨hk, hf, L.seen_append (L.seen_append rfl (L.seen_append (L.seen_append k₁ k₂) k₃)) ht⟩

theorem tick (dt : Binary64) : Report.AlikeResult (s.tick b dt).1 (s'.tick b' dt).1 ∧
    L.OfSession (s.tick b dt).2 (s'.tick b' dt).2 ∧
      L.seen (s.deeds b (.tick dt)) = L.seen (s'.deeds b' (.tick dt)) := by
  obtain ⟨hr, hu, hd⟩ := hb.step hs dt
  have hf : s'.failure = s.failure := by
    obtain ⟨stage, m, n, _, rfl⟩ := hs
    rfl
  rw [Session.deeds, Session.deeds, Session.isFailed, Session.isFailed, hf, Session.tick,
    Session.tick, hf]
  cases s.failure with
  | some f => exact ⟨.error _, hs, rfl⟩
  | none =>
    generalize s.step b dt = x at hr hu ⊢
    generalize s'.step b' dt = x' at hr hu ⊢
    obtain ⟨r, u⟩ := x
    obtain ⟨r', u'⟩ := x'
    dsimp only at hr hu ⊢
    obtain ⟨_, m, n, hs, rfl⟩ := hu
    cases hr with
    | @ok r r' h =>
      obtain ⟨fs, k, rfl⟩ := h
      refine ⟨.ok ⟨fs, k, rfl⟩, ⟨_, m + fs.length, n + k, hs, ?_⟩, hd⟩
      simp only [Stats.count, Stats.foldl_countDrop]
    | error f => exact ⟨.error f, ⟨_, _, _, (hs.log_left _).log_right _, rfl⟩, hd⟩

theorem apply {m : Move κ σ} {m' : Move κ σ'} (hm : L.OfMove m m') :
    L.OfSession (s.apply b m) (s'.apply b' m') ∧
      L.seen (s.deeds b m) = L.seen (s'.deeds b' m') := by
  cases hm with
  | tick dt => exact (hb.tick hs dt).2
  | pause =>
    obtain ⟨_, m, n, hs, rfl⟩ := hs
    simp only [Session.apply, Session.pause]
    split
    · exact ⟨⟨_, _, _, hs, rfl⟩, rfl⟩
    · exact ⟨⟨_, _, _, (hs.log_left _).log_right _, rfl⟩, rfl⟩
  | resume =>
    obtain ⟨_, m, n, hs, rfl⟩ := hs
    simp only [Session.apply, Session.resume]
    split
    · exact ⟨⟨_, _, _, (hs.log_left _).log_right _, rfl⟩, rfl⟩
    · exact ⟨⟨_, _, _, hs, rfl⟩, rfl⟩
  | send frame =>
    obtain ⟨_, m, n, hs, rfl⟩ := hs
    simp only [Session.apply]
    split <;> exact ⟨⟨_, _, _, hs, rfl⟩, rfl⟩
  | remember h =>
    obtain ⟨_, m, n, ⟨c, v, j, hc, hv, rfl⟩, rfl⟩ := hs
    exact ⟨⟨_, _, _, ⟨c, _, j, hc, h, rfl⟩, rfl⟩, rfl⟩
  | _ =>
    obtain ⟨_, m, n, hs, rfl⟩ := hs
    exact ⟨⟨_, _, _, hs, rfl⟩, rfl⟩

end

end OfCode

end Likeness

end Diorama
