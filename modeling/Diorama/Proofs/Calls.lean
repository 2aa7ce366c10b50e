import Diorama.Proofs.RunningOrder

namespace Diorama

variable {κ σ : Type}

inductive Call (κ : Type) where
  | update (handle : Handle (System κ)) (name : String) (ending : Ending)
  | notify (handle : Handle (Subscription κ)) (event : HostEvent) (ending : Ending)
  | answer (id : RequestId) (code : κ) (outcome : Outcome) (ending : Ending)

namespace Call

def happening : Call κ → Happening κ
  | update h _ _ => .update h
  | notify h e _ => .notify h e
  | answer id code o _ => .answer id code o

def failure? : Call κ → Option Failure
  | update _ name ending => ending.reason?.map (.system name)
  | _ => none

/-- The code of a query has nothing to return, so it fails only when it breaks off. -/
def isHandlerFailure : Call κ → Bool
  | update .. => false
  | notify _ _ ending => ending.reason?.isSome
  | answer _ _ _ (.panicked _) => true
  | answer .. => false

def failed (c : Call κ) : Bool := c.failure?.isSome || c.isHandlerFailure

theorem length_failed (cs : List (Call κ)) :
    cs.countP failed = (cs.filterMap failure?).length + cs.countP isHandlerFailure := by
  induction cs with
  | nil => rfl
  | cons c cs ih =>
    rw [List.countP_cons, List.countP_cons, List.filterMap_cons, ih, failed]
    cases c with
    | update h name ending => cases ending <;> simp [failure?, isHandlerFailure, Ending.reason?] <;>
        omega
    | notify h e ending => simp [failure?, Nat.add_assoc]
    | answer id code o ending => simp [failure?, Nat.add_assoc]

end Call

namespace Happening

def isCall : Happening κ → Bool
  | .update _ | .notify .. | .answer .. => true
  | _ => false

end Happening

def Schedule.runs (b : Behaviour κ σ) (dt : Binary64) :
    Members (System κ) → Stage κ σ → List (Call κ)
  | [], _ => []
  | (h, s) :: rest, stage =>
    let r := stage.call b s.code (.update dt)
    .update h s.name r.ending :: runs b dt rest r.stage

def Dispatch.runs (b : Behaviour κ σ) (e : HostEvent) :
    Members (Subscription κ) → Stage κ σ → List (Call κ)
  | [], _ => []
  | (h, s) :: rest, stage =>
    if s.wants e then
      let r := stage.call b s.code (.event e)
      .notify h e r.ending :: runs b e rest r.stage
    else runs b e rest stage

namespace Turn

variable (b : Behaviour κ σ) (t : Turn κ σ)

def callsAlong {α : Type} (deal : Turn κ σ → α → Turn κ σ) (calls : Turn κ σ → α → List (Call κ))
    (t : Turn κ σ) : List α → List (Call κ)
  | [] => []
  | a :: as => calls t a ++ callsAlong deal calls (deal t a) as

def handleCalls : Arrival → List (Call κ)
  | .event e =>
    match e.entity.filter fun x => !t.world.isAlive x with
    | some _ => []
    | none => Dispatch.runs b e t.session.subscriptions t.session.stage
  | .response id o =>
    match t.world.queries.resolve id with
    | (some code, queries) =>
      let stage := (t.session.setWorld { t.world with queries }).stage
      [.answer id code o (stage.call b code (.outcome o)).ending]
    | (none, _) => []

def timeOutCalls (q : RequestId × κ) : List (Call κ) :=
  [.answer q.1 q.2 .timedOut (t.session.stage.call b q.2 (.outcome .timedOut)).ending]

def dispatchCalls : List (Call κ) :=
  t.gathered.callsAlong (handle b) (handleCalls b) t.session.inbox

def expireCalls : List (Call κ) := t.lapsed.2.callsAlong (timeOut b) (timeOutCalls b) t.lapsed.1

def updateCalls (dt : Binary64) : List (Call κ) :=
  if t.session.paused then [] else Schedule.runs b dt t.convened.1 t.convened.2

end Turn

def Session.calls (b : Behaviour κ σ) (dt : Binary64) (s : Session κ σ) : List (Call κ) :=
  let t := (Turn.begin s).receiveAll
  if s.isFailed || t.session.link.toScene.isDry then []
  else
    t.dispatchCalls b ++ (t.dispatch b).expireCalls b
      ++ ((t.dispatch b).expire b).updateCalls b dt

theorem Stage.deeds_isCall (s : Stage κ σ) (b : Behaviour κ σ) (code : κ) (o : Occasion) :
    (s.deeds b code o).filter Happening.isCall = [] :=
  List.filter_eq_nil_iff.mpr fun x hx => by
    obtain ⟨a, reply, rfl⟩ := Stage.mem_deeds hx
    exact Bool.false_ne_true

theorem Schedule.runs_happening (b : Behaviour κ σ) (dt : Binary64) (ms : Members (System κ))
    (s : Stage κ σ) :
    (runs b dt ms s).map Call.happening = (deeds b dt ms s).filter Happening.isCall := by
  induction ms generalizing s with
  | nil => rfl
  | cons m ms ih =>
    rw [deeds, List.cons_append, List.filter_cons_of_pos rfl, List.filter_append,
      Stage.deeds_isCall, List.nil_append, ← ih]
    rfl

theorem Dispatch.runs_happening (b : Behaviour κ σ) (e : HostEvent)
    (ms : Members (Subscription κ)) (s : Stage κ σ) :
    (runs b e ms s).map Call.happening = (deeds b e ms s).filter Happening.isCall := by
  induction ms generalizing s with
  | nil => rfl
  | cons m ms ih =>
    rw [runs, deeds]
    split
    · rw [List.cons_append, List.filter_cons_of_pos rfl, List.filter_append,
        Stage.deeds_isCall, List.nil_append, ← ih]
      rfl
    · exact ih s

namespace Turn

variable (b : Behaviour κ σ) (t : Turn κ σ)

theorem callsAlong_happening {α : Type} {deal : Turn κ σ → α → Turn κ σ}
    {calls : Turn κ σ → α → List (Call κ)} {deeds : Turn κ σ → α → History κ}
    (hc : ∀ t a, (calls t a).map Call.happening = (deeds t a).filter Happening.isCall)
    (as : List α) :
    (t.callsAlong deal calls as).map Call.happening =
      (t.along deal deeds as).filter Happening.isCall := by
  induction as generalizing t with
  | nil => rfl
  | cons a as ih => rw [callsAlong, along, List.map_append, List.filter_append, hc, ih]

theorem handleCalls_happening (a : Arrival) :
    (t.handleCalls b a).map Call.happening = (t.handleDeeds b a).filter Happening.isCall := by
  cases a with
  | event e =>
    simp only [handleCalls, handleDeeds]
    cases e.entity.filter fun x => !t.world.isAlive x with
    | some x => rfl
    | none => exact Dispatch.runs_happening b e _ _
  | response id o =>
    simp only [handleCalls, handleDeeds]
    rcases t.world.queries.resolve id with ⟨_ | code, queries⟩
    · rfl
    · dsimp only
      rw [List.filter_cons_of_pos rfl, Stage.deeds_isCall]
      rfl

theorem timeOutCalls_happening (q : RequestId × κ) :
    (t.timeOutCalls b q).map Call.happening = (t.timeOutDeeds b q).filter Happening.isCall := by
  rw [timeOutDeeds, List.filter_cons_of_pos rfl, Stage.deeds_isCall]
  rfl

theorem dispatchCalls_happening :
    (t.dispatchCalls b).map Call.happening = (t.dispatchDeeds b).filter Happening.isCall :=
  t.gathered.callsAlong_happening (handleCalls_happening b) t.session.inbox

theorem expireCalls_happening :
    (t.expireCalls b).map Call.happening = (t.expireDeeds b).filter Happening.isCall :=
  t.lapsed.2.callsAlong_happening (timeOutCalls_happening b) t.lapsed.1

theorem updateCalls_happening (dt : Binary64) :
    (t.updateCalls b dt).map Call.happening = (t.updateDeeds b dt).filter Happening.isCall := by
  cases hp : t.session.paused with
  | true => rw [updateCalls, if_pos hp, (update_paused b dt hp).1]; rfl
  | false =>
    rw [updateCalls, hp, updateDeeds_running b dt hp]
    exact Schedule.runs_happening b dt _ _

end Turn

namespace Session

theorem intake_isCall (s : Session κ σ) :
    (.begin :: s.link.toScene.waiting.map .hear : History κ).filter Happening.isCall = [] :=
  List.filter_eq_nil_iff.mpr fun x hx => by
    obtain rfl | hx := List.mem_cons.mp hx
    · exact Bool.false_ne_true
    · obtain ⟨frame, _, rfl⟩ := List.mem_map.mp hx
      exact Bool.false_ne_true

theorem calls_happening (b : Behaviour κ σ) (dt : Binary64) (s : Session κ σ) :
    (s.calls b dt).map Call.happening = (s.deeds b (.tick dt)).filter Happening.isCall := by
  rw [calls, deeds]
  cases hf : s.isFailed with
  | true => rfl
  | false =>
    by_cases hd : (Turn.begin s).receiveAll.session.link.toScene.isDry = true
    · rw [if_neg Bool.false_ne_true, stepDeeds_dry b dt hd, List.filter_append, intake_isCall, hd]
      rfl
    · rw [if_neg Bool.false_ne_true, stepDeeds_wet b dt hd, List.filter_append,
        List.filter_append, intake_isCall, workDeeds, List.filter_append, List.filter_append,
        ← Turn.dispatchCalls_happening, ← Turn.expireCalls_happening,
        ← Turn.updateCalls_happening, eq_false_of_ne_true hd]
      simp [Turn.telling, Happening.isCall]

end Session

structure Toll where
  systems : List Failure := []
  handlers : Nat := 0

namespace Toll

def add (x : Toll) (cs : List (Call κ)) : Toll :=
  ⟨x.systems ++ cs.filterMap Call.failure?, x.handlers + cs.countP Call.isHandlerFailure⟩

theorem add_nil (x : Toll) : x.add ([] : List (Call κ)) = x := by
  rw [add, List.filterMap_nil, List.append_nil]
  rfl

theorem add_append (x : Toll) (cs cs' : List (Call κ)) :
    x.add (cs ++ cs') = (x.add cs).add cs' := by
  simp only [add, List.filterMap_append, List.countP_append, List.append_assoc, Nat.add_assoc]

end Toll

def Report.toll (r : Report) : Toll := ⟨r.failures, r.handlerFailures⟩

theorem Schedule.runs_journal (b : Behaviour κ σ) (dt : Binary64) (ms : Members (System κ))
    (s : Stage κ σ) (j : List Event) : runs b dt ms { s with journal := j } = runs b dt ms s := by
  induction ms generalizing s j with
  | nil => rfl
  | cons m ms ih => simp only [runs, Stage.call_journal, ih]

theorem Dispatch.runs_journal (b : Behaviour κ σ) (e : HostEvent) (ms : Members (Subscription κ))
    (s : Stage κ σ) (j : List Event) : runs b e ms { s with journal := j } = runs b e ms s := by
  induction ms generalizing s j with
  | nil => rfl
  | cons m ms ih => simp only [runs, Stage.call_journal, ih]

theorem Schedule.pass_failures (b : Behaviour κ σ) (scene : String) (dt : Binary64)
    (ms : Members (System κ)) (s : Stage κ σ) :
    (pass b scene dt ms s).failures = (runs b dt ms s).filterMap Call.failure? := by
  induction ms generalizing s with
  | nil => rfl
  | cons m ms ih =>
    simp only [pass, runs, List.filterMap_cons, Call.failure?]
    cases (s.call b m.2.code (.update dt)).ending.reason? with
    | none => exact ih _
    | some reason =>
      refine congrArg (Failure.system m.2.name reason :: ·) ((ih _).trans ?_)
      rw [Stage.log, runs_journal]

theorem Dispatch.deliver_failed (b : Behaviour κ σ) (scene : String) (e : HostEvent)
    (ms : Members (Subscription κ)) (s : Stage κ σ) :
    (deliver b scene e ms s).failed = (runs b e ms s).countP Call.isHandlerFailure := by
  induction ms generalizing s with
  | nil => rfl
  | cons m ms ih =>
    simp only [deliver, runs]
    split
    · rw [List.countP_cons, Call.isHandlerFailure]
      cases (s.call b m.2.code (.event e)).ending.reason? with
      | none => exact ih _
      | some reason =>
        refine congrArg Nat.succ ((ih _).trans ?_)
        rw [Stage.log, runs_journal]
    · exact ih s

theorem Dispatch.runs_failure (b : Behaviour κ σ) (e : HostEvent) (ms : Members (Subscription κ))
    (s : Stage κ σ) : (runs b e ms s).filterMap Call.failure? = [] := by
  induction ms generalizing s with
  | nil => rfl
  | cons m ms ih =>
    rw [runs]
    split <;> exact ih _

theorem Schedule.runs_handlers (b : Behaviour κ σ) (dt : Binary64) (ms : Members (System κ))
    (s : Stage κ σ) : (runs b dt ms s).countP Call.isHandlerFailure = 0 := by
  induction ms generalizing s with
  | nil => rfl
  | cons m ms ih => exact (List.countP_cons_of_neg Bool.false_ne_true).trans (ih _)

namespace Turn

variable (b : Behaviour κ σ) (t : Turn κ σ)

theorem complete_toll (id : RequestId) (code : κ) (o : Outcome) :
    (t.complete b id code o).report.toll = t.report.toll.add
      [.answer id code o (t.session.stage.call b code (.outcome o)).ending] := by
  rw [complete]
  cases (t.session.stage.call b code (.outcome o)).ending <;>
    simp [Report.toll, Toll.add, Call.failure?, Call.isHandlerFailure, log]

theorem handle_toll (a : Arrival) :
    (t.handle b a).report.toll = t.report.toll.add (t.handleCalls b a) := by
  cases a with
  | event e =>
    simp only [handle, handleCalls]
    cases e.entity.filter fun x => !t.world.isAlive x with
    | some x => exact (Toll.add_nil _).symm
    | none =>
      rw [Toll.add, Dispatch.runs_failure, List.append_nil,
        ← Dispatch.deliver_failed b t.session.config.sceneId]
      rfl
  | response id o =>
    simp only [handle, handleCalls]
    rcases t.world.queries.resolve id with ⟨_ | code, queries⟩
    · exact (Toll.add_nil _).symm
    · exact complete_toll b { t with session := t.session.setWorld { t.world with queries } } id
        code o

theorem timeOut_toll (q : RequestId × κ) :
    (t.timeOut b q).report.toll = t.report.toll.add (t.timeOutCalls b q) := by
  let e : Event := .say .debug Target.session s!"Query '{q.1.text}' timed out"
  have hc := complete_toll b (t.log e) q.1 q.2 .timedOut
  have he : ((t.log e).session.stage.call b q.2 (.outcome .timedOut)).ending =
      (t.session.stage.call b q.2 (.outcome .timedOut)).ending := by
    rw [log, Session.log, Stage.log, Stage.call_journal]
  rw [he] at hc
  exact hc

theorem foldl_toll {α : Type} {deal : Turn κ σ → α → Turn κ σ}
    {calls : Turn κ σ → α → List (Call κ)}
    (hd : ∀ t a, (deal t a).report.toll = t.report.toll.add (calls t a)) (as : List α) :
    (as.foldl deal t).report.toll = t.report.toll.add (t.callsAlong deal calls as) := by
  induction as generalizing t with
  | nil => exact (Toll.add_nil _).symm
  | cons a as ih => rw [List.foldl_cons, ih, hd, callsAlong, Toll.add_append]

theorem dispatch_toll : (t.dispatch b).report.toll = t.report.toll.add (t.dispatchCalls b) :=
  t.gathered.foldl_toll (handle_toll b) t.session.inbox

theorem expire_toll : (t.expire b).report.toll = t.report.toll.add (t.expireCalls b) :=
  t.lapsed.2.foldl_toll (timeOut_toll b) t.lapsed.1

theorem update_toll (dt : Binary64) (hn : t.report.toll.systems = []) :
    (t.update b dt).report.toll = t.report.toll.add (t.updateCalls b dt) := by
  cases hp : t.session.paused with
  | true => rw [(update_paused b dt hp).2, updateCalls, if_pos hp, Toll.add_nil]
  | false =>
    rw [updateCalls, hp, if_neg Bool.false_ne_true, Toll.add, hn, Schedule.runs_handlers,
      List.nil_append, ← Schedule.pass_failures b t.session.config.sceneId, update, hp]
    rfl

theorem callsAlong_failure {α : Type} {deal : Turn κ σ → α → Turn κ σ}
    {calls : Turn κ σ → α → List (Call κ)}
    (hc : ∀ t a, (calls t a).filterMap Call.failure? = []) (as : List α) :
    (t.callsAlong deal calls as).filterMap Call.failure? = [] := by
  induction as generalizing t with
  | nil => rfl
  | cons a as ih => rw [callsAlong, List.filterMap_append, hc, ih, List.append_nil]

theorem handleCalls_failure (a : Arrival) :
    (t.handleCalls b a).filterMap Call.failure? = [] := by
  cases a with
  | event e =>
    rw [handleCalls]
    split
    · rfl
    · exact Dispatch.runs_failure b e _ _
  | response id o =>
    rw [handleCalls]
    split <;> rfl

end Turn

/-- A report tells of the calls that failed, and of no others: of the systems one by one in the
order of the calls, and of the rest how many. -/
structure Report.TellsOf (r : Report) (cs : List (Call κ)) : Prop where
  systems : r.failures = cs.filterMap Call.failure?
  handlers : r.handlerFailures = cs.countP Call.isHandlerFailure
  all : r.failures.length + r.handlerFailures = cs.countP Call.failed

namespace Session

theorem receiveAll_toll (s : Session κ σ) : (Turn.begin s).receiveAll.report.toll = {} := by
  refine s.opened.foldl_keeps (fun t => t.report.toll) (fun t frame => ?_) s.link.toScene.waiting
  rw [Turn.receive]
  split <;> rfl

theorem report_tellsOf {b : Behaviour κ σ} {dt : Binary64} {s : Session κ σ} {report : Report}
    (hk : (s.tick b dt).1 = .ok report) : report.TellsOf (s.calls b dt) := by
  obtain ⟨hf, hs⟩ := tick_isOk (isOk_of_tick hk)
  have hr : report.toll = (s.worked b dt).report.toll :=
    (congrArg Report.toll (flush_ok (tick_flush hk).1)).trans rfl
  have hd : (s.dispatched b).report.toll =
      ({} : Toll).add ((Turn.begin s).receiveAll.dispatchCalls b) := by
    rw [← receiveAll_toll s]
    exact Turn.dispatch_toll b _
  have he := (s.dispatched b).expire_toll b
  rw [hd, ← Toll.add_append] at he
  have hn : ((s.dispatched b).expire b).report.toll.systems = [] := by
    rw [he, Toll.add, List.filterMap_append, Turn.dispatchCalls, Turn.expireCalls,
      Turn.callsAlong_failure _ (Turn.handleCalls_failure b),
      Turn.callsAlong_failure _ fun _ _ => rfl]
    rfl
  have hc : s.calls b dt = (Turn.begin s).receiveAll.dispatchCalls b
      ++ (s.dispatched b).expireCalls b ++ ((s.dispatched b).expire b).updateCalls b dt := by
    rw [calls, isFailed, hf, eq_false_of_ne_true (not_dry hs)]
    rfl
  have ht : report.toll = ({} : Toll).add (s.calls b dt) := by
    rw [hc, Toll.add_append, ← he, hr]
    exact Turn.update_toll b _ dt hn
  have hsys : report.failures = (s.calls b dt).filterMap Call.failure? :=
    congrArg Toll.systems ht
  have hhan : report.handlerFailures = (s.calls b dt).countP Call.isHandlerFailure :=
    (congrArg Toll.handlers ht).trans (Nat.zero_add _)
  refine ⟨hsys, hhan, ?_⟩
  rw [hsys, hhan, Call.length_failed]

end Session

/-- The handle of a system was given to one of its name. -/
def History.Names (h : History κ) (k : Handle (System κ)) (name : String) : Prop :=
  ∃ s, .act (.register s) k ∈ h ∧ s.name = name

theorem History.Names.append {h : History κ} {k : Handle (System κ)} {name : String}
    (hn : h.Names k name) (h' : History κ) : (h ++ h' : History κ).Names k name := by
  obtain ⟨s, hs, he⟩ := hn
  exact ⟨s, List.mem_append_left _ hs, he⟩

namespace Moment

variable {m m' : Moment κ} {h : History κ} {x : Happening κ} {k : Handle (System κ)}
  {s : System κ}

theorem Step.joined (hx : Step m x m') (hj : .join k s ∈ m'.world.systems.orders) :
    .join k s ∈ m.world.systems.orders ∨ x = .act (.register s) k := by
  cases hc : x.isConvene with
  | true =>
    cases hx with
    | convene ms hp => exact absurd hj List.not_mem_nil
    | _ => cases hc
  | false =>
    have hr := hx.systems hc
    generalize ho : x.systemOrder? = order? at hr
    generalize m'.world.systems = r at hr hj
    cases hr with
    | join a =>
      obtain hj | hj := List.mem_append.mp hj
      · exact .inl hj
      · obtain ⟨rfl, rfl⟩ := Order.join.inj (List.mem_singleton.mp hj)
        exact .inr (Happening.systemOrder?_eq_join.mp ho)
    | leave h' =>
      rw [Roster.leave] at hj
      split at hj
      · exact .inl ((List.mem_append.mp hj).resolve_right (by simp))
      · exact .inl hj
    | stay => exact .inl hj

theorem Trail.joined (hh : Trail m h m') (hj : .join k s ∈ m'.world.systems.orders) :
    .join k s ∈ m.world.systems.orders ∨ .act (.register s) k ∈ h := by
  induction hh with
  | nil => exact .inl hj
  | snoc hm hx ih =>
    obtain hj | rfl := hx.joined hj
    · exact (ih hj).imp_right (List.mem_append_left _)
    · exact .inr (List.mem_append_right _ (.head _))

end Moment

namespace Schedule

variable {h : History κ}

theorem orders_names {ms : Members (System κ)} {orders : List (Order (System κ))}
    (hm : ∀ m ∈ ms, h.Names m.1 m.2.name) (ho : ∀ k s, .join k s ∈ orders → h.Names k s.name) :
    ∀ m ∈ orders.foldl (Order.apply place) ms, h.Names m.1 m.2.name := by
  induction orders generalizing ms with
  | nil => exact hm
  | cons order orders ih =>
    refine ih ?_ fun k s hj => ho k s (.tail _ hj)
    cases order with
    | join k s =>
      intro m hp
      obtain rfl | hp := List.mem_cons.mp ((place_perm (k, s) ms).mem_iff.mp hp)
      · exact ho k s (.head _)
      · exact hm m hp
    | leave k => exact fun m hp => hm m (List.mem_filter.mp hp).1

theorem pass_names (b : Behaviour κ σ) (scene : String) (dt : Binary64)
    {ms : Members (System κ)} (hm : ∀ m ∈ ms, h.Names m.1 m.2.name) (s : Stage κ σ) :
    ∀ m ∈ (pass b scene dt ms s).members, h.Names m.1 m.2.name := by
  induction ms generalizing s with
  | nil => exact hm
  | cons m ms ih =>
    have hn := List.forall_mem_cons.mp hm
    simp only [pass]
    split <;> exact List.forall_mem_cons.mpr ⟨hn.1, ih hn.2 _⟩

theorem runs_names (b : Behaviour κ σ) (dt : Binary64) {ms : Members (System κ)}
    (hm : ∀ m ∈ ms, h.Names m.1 m.2.name) {s : Stage κ σ} {k : Handle (System κ)} {name : String}
    {ending : Ending} (hc : .update k name ending ∈ runs b dt ms s) : h.Names k name := by
  induction ms generalizing s with
  | nil => cases hc
  | cons m ms ih =>
    have hn := List.forall_mem_cons.mp hm
    obtain he | hc := List.mem_cons.mp hc
    · cases he
      exact hn.1
    · exact ih hn.2 hc

end Schedule

namespace Session

structure Named (s : Session κ σ) (h : History κ) : Prop where
  members : ∀ m ∈ s.systems, h.Names m.1 m.2.name
  orders (k : Handle (System κ)) (y : System κ) :
    .join k y ∈ s.world.systems.orders → h.Names k y.name

namespace Named

variable {s : Session κ σ} {h : History κ}

theorem start (config : Config) (types : Registry) (memory : σ) :
    (Session.start config ({ types } : World κ) memory).Named [] :=
  ⟨fun _ hm => absurd hm List.not_mem_nil, fun _ _ hj => absurd hj List.not_mem_nil⟩

theorem convened (hs : s.Named h) (b : Behaviour κ σ) (hf : s.failure = none) :
    ∀ m ∈ ((s.dispatched b).expire b).convened.1,
      (h ++ s.opening b : History κ).Names m.1 m.2.name := by
  refine Schedule.orders_names (fun m hm => ?_) fun k y hj => ?_
  · have hc : ((s.dispatched b).expire b).session.systems = s.systems := (opening_cast b s).1
    exact (hs.members m (hc ▸ hm)).append _
  · obtain hj | hj := (opening_trail b hf).joined hj
    · exact (hs.orders k y hj).append _
    · exact ⟨y, List.mem_append_right _ hj, rfl⟩

theorem updated (hs : s.Named h) (b : Behaviour κ σ) (dt : Binary64) (hf : s.failure = none) :
    ∀ m ∈ (s.worked b dt).session.systems, (h ++ s.opening b : History κ).Names m.1 m.2.name := by
  let t := (s.dispatched b).expire b
  have hw : s.worked b dt = t.update b dt := rfl
  rw [hw]
  cases hp : t.session.paused with
  | true =>
    have hc : t.session.systems = s.systems := (opening_cast b s).1
    rw [(Turn.update_paused b dt hp).2, hc]
    exact fun m hm => (hs.members m hm).append _
  | false =>
    rw [(Turn.update_running b dt hp).1]
    exact Schedule.pass_names b _ dt (hs.convened b hf) _

theorem tick (hs : s.Named h) (b : Behaviour κ σ) (dt : Binary64) :
    (s.tick b dt).2.Named (h ++ s.deeds b (.tick dt)) := by
  by_cases hn : s.isFailed = true
  · rw [deeds, if_pos hn, tick_failed hn, List.append_nil]
    exact hs
  have hf : s.failure = none := Option.not_isSome_iff_eq_none.mp hn
  have hm := congrArg Prod.fst (tick_members b dt hf)
  refine ⟨?_, fun k y hj => ?_⟩
  · by_cases hd : (Turn.begin s).receiveAll.session.link.toScene.isDry = true
    · rw [step_dry b dt hd] at hm
      have hr : (s.tick b dt).2.systems = s.systems :=
        hm.trans (congrArg Prod.fst s.receiveAll_members)
      rw [hr]
      exact fun m hm => (hs.members m hm).append _
    · rw [step_wet b dt hd] at hm
      have hr : (s.tick b dt).2.systems = (s.worked b dt).session.systems :=
        hm.trans (congrArg Prod.fst (flush_members _))
      rw [hr, deeds_opening hf hd, List.append_assoc, ← List.append_assoc]
      exact fun m hm => (hs.updated b dt hf m hm).append _
  · rw [deeds, if_neg hn]
    obtain hj | hj := (tick_trail b dt hf).joined hj
    · exact (hs.orders k y hj).append _
    · exact ⟨y, List.mem_append_right _ hj, rfl⟩

theorem apply (hs : s.Named h) (b : Behaviour κ σ) (m : Move κ σ) :
    (s.apply b m).Named (h ++ s.deeds b m) := by
  obtain ⟨a, rfl⟩ | ⟨dt, rfl⟩ | ⟨hd, memory, journal, paused, link, he, _⟩ := apply_cases b s m
  · refine ⟨fun m hm => (hs.members m hm).append _, fun k y hj => ?_⟩
    obtain hj | hj := (act_trail s a).joined hj
    · exact (hs.orders k y hj).append _
    · exact ⟨y, List.mem_append_right _ hj, rfl⟩
  · exact hs.tick b dt
  · rw [hd, he, List.append_nil]
    exact ⟨hs.members, hs.orders⟩

theorem after (hs : s.Named h) (b : Behaviour κ σ) (ms : List (Move κ σ)) :
    (s.after b ms).Named (h ++ s.history b ms) := by
  induction ms generalizing s h with
  | nil => rwa [history, List.append_nil]
  | cons m ms ih =>
    rw [history, ← List.append_assoc]
    exact ih (hs.apply b m)

theorem calls (hs : s.Named h) {b : Behaviour κ σ} {dt : Binary64} {k : Handle (System κ)}
    {name : String} {ending : Ending} (hc : .update k name ending ∈ s.calls b dt) :
    (h ++ s.deeds b (.tick dt) : History κ).Names k name := by
  rw [Session.calls] at hc
  split at hc
  · cases hc
  rename_i hn
  rw [Bool.or_eq_true, not_or] at hn
  obtain ⟨hn, hd⟩ := hn
  have hf : s.failure = none := Option.not_isSome_iff_eq_none.mp hn
  rw [deeds_opening hf hd, List.append_assoc, ← List.append_assoc]
  refine .append ?_ _
  -- What is called before the systems is no system.
  have early {x : Happening κ} (hx : x ∈ s.opening b) : x ≠ .update k := by
    rintro rfl
    have hu := (mem_opening hx).elim (fun h => Happening.before_convene (.inl h))
      fun h => Happening.before_convene (.inr h)
    cases hu.2
  obtain hc | hc := List.mem_append.mp hc
  · have hm := List.mem_map_of_mem (f := Call.happening) hc
    rw [List.map_append, Turn.dispatchCalls_happening, Turn.expireCalls_happening,
      ← List.filter_append] at hm
    refine absurd rfl (early (x := .update k) ?_)
    rw [opening, List.append_assoc]
    exact List.mem_append_right _ (List.mem_of_mem_filter hm)
  · rw [Turn.updateCalls] at hc
    split at hc
    · cases hc
    · exact Schedule.runs_names b dt (hs.convened b hf) hc

end Named

end Session

end Diorama
