import Diorama.Proofs.Parts
import Diorama.Proofs.Queue

namespace Diorama

variable {κ σ : Type}

abbrev Fate := Except Drop Arrival

namespace Fate

def isEvent : Fate → Bool
  | .ok (.event _) => true
  | _ => false

def isResponse : Fate → Bool
  | .ok (.response ..) => true
  | _ => false

def drop? : Fate → Option Drop
  | .error d => some d
  | .ok _ => none

theorem length_eq (zs : List Fate) :
    zs.countP isEvent + zs.countP isResponse + (zs.filterMap drop?).length = zs.length := by
  induction zs with
  | nil => rfl
  | cons z zs ih =>
    rw [List.countP_cons, List.countP_cons, List.filterMap_cons, List.length_cons, ← ih]
    rcases z with d | e | ⟨id, o⟩ <;> simp only [isEvent, isResponse, drop?, List.length_cons] <;>
      simp <;> omega

end Fate

/-- What a message is to the scene if it does not come too late. -/
def HostMessage.arrival : HostMessage → Arrival
  | event name entity payload => .event ⟨name, entity, payload⟩
  | response request payload error =>
    .response request (match error with
      | some message => .failed message
      | none => .resolved payload)

namespace Arrival

/-- A message is handled, or dropped as one that comes too late. -/
inductive MayMeet (a : Arrival) : Fate → Prop
  | handled : MayMeet a (.ok a)
  | gone {e : HostEvent} {x : Entity} (ha : a = .event e) (hx : x ∈ e.entity) :
      MayMeet a (.error (.deadEntity e.name x))
  | unmatched {id : RequestId} {o : Outcome} (ha : a = .response id o) :
      MayMeet a (.error (.unmatched id))

end Arrival

inductive Fate.Of (frame : String) : Fate → Prop
  | malformed {fault : Fault} (hp : HostMessage.parse frame.toList = .error fault) :
      Of frame (.error (.malformed fault))
  | message {m : HostMessage} {z : Fate} (hp : HostMessage.parse frame.toList = .ok m)
      (hz : m.arrival.MayMeet z) : Of frame z

namespace Arrival

variable {w : World κ} {frame : String} {m : HostMessage} {a : Arrival} {d : Drop}

theorem ofMessage_ok (h : ofMessage w m = .ok a) : m.arrival = a := by
  cases m with
  | event name entity payload =>
    cases entity with
    | none => exact Except.ok.inj h
    | some e =>
      simp only [ofMessage] at h
      split at h <;> cases h
      rfl
  | response request payload error =>
    simp only [ofMessage] at h
    split at h <;> cases h
    rfl

theorem ofMessage_error (h : ofMessage w m = .error d) : m.arrival.MayMeet (.error d) := by
  cases m with
  | event name entity payload =>
    cases entity with
    | none => cases h
    | some e =>
      simp only [ofMessage] at h
      split at h <;> cases h
      exact .gone (e := ⟨name, some e, payload⟩) rfl rfl
  | response request payload error =>
    simp only [ofMessage] at h
    split at h <;> cases h
    exact .unmatched rfl

theorem ofFrame_ok (h : ofFrame w frame = .ok a) :
    ∃ m, HostMessage.parse frame.toList = .ok m ∧ m.arrival = a := by
  rw [ofFrame] at h
  split at h
  · exact ⟨_, ‹_›, ofMessage_ok h⟩
  · cases h

theorem ofFrame_error (h : ofFrame w frame = .error d) : Fate.Of frame (.error d) := by
  rw [ofFrame] at h
  split at h
  · exact .message ‹_› (ofMessage_error h)
  · cases h
    exact .malformed ‹_›

end Arrival

/-- The messages that a world takes in are dealt with later, and the others are dropped at once. Put
together, they are the frames one by one. -/
theorem Fate.weave (w : World κ) (frames : List String) {zs : List Fate}
    (hz : List.Forall₂ Arrival.MayMeet
      ((frames.map (Arrival.ofFrame w)).filterMap Except.toOption) zs) :
    ∃ fates, List.Forall₂ Fate.Of frames fates ∧
      fates.Perm ((frames.map (Arrival.ofFrame w)).filter (fun z => !z.isOk) ++ zs) ∧
      fates.filterMap Except.toOption = zs.filterMap Except.toOption := by
  induction frames generalizing zs with
  | nil =>
    cases hz
    exact ⟨[], .nil, .nil, rfl⟩
  | cons frame frames ih =>
    rw [List.map_cons] at hz ⊢
    cases hf : Arrival.ofFrame w frame with
    | error d =>
      rw [hf] at hz
      obtain ⟨fates, ho, hp, hk⟩ := ih hz
      exact ⟨.error d :: fates, .cons (Arrival.ofFrame_error hf) ho, hp.cons _, hk⟩
    -- It was taken in, so its fate is the first of those that were decided later.
    | ok a =>
      rw [hf] at hz
      cases hz with
      | @cons _ z _ zs h hz =>
        obtain ⟨fates, ho, hp, hk⟩ := ih hz
        obtain ⟨m, hm, rfl⟩ := Arrival.ofFrame_ok hf
        refine ⟨z :: fates, .cons (.message hm h) ho, ?_, ?_⟩
        · exact (hp.cons z).trans List.perm_middle.symm
        · rw [List.filterMap_cons, List.filterMap_cons, hk]

structure Account where
  events : Nat
  resolved : Nat
  dropped : List Drop

namespace Account

def enter (c : Account) : Fate → Account
  | .ok (.event _) => { c with events := c.events + 1 }
  | .ok (.response ..) => { c with resolved := c.resolved + 1 }
  | .error d => { c with dropped := c.dropped ++ [d] }

theorem foldl_enter (c : Account) (zs : List Fate) :
    zs.foldl enter c =
      ⟨c.events + zs.countP Fate.isEvent, c.resolved + zs.countP Fate.isResponse,
        c.dropped ++ zs.filterMap Fate.drop?⟩ := by
  induction zs generalizing c with
  | nil => simp
  | cons z zs ih =>
    rw [List.foldl_cons, ih, List.countP_cons, List.countP_cons, List.filterMap_cons]
    rcases z with d | e | ⟨id, o⟩ <;> simp [enter, Fate.isEvent, Fate.isResponse, Fate.drop?] <;>
      omega

end Account

def Report.account (r : Report) : Account := ⟨r.events, r.resolved, r.dropped⟩

namespace Happening

def handled? : Happening κ → Option Arrival
  | .deliver e => some (.event e)
  | .answer _ _ .timedOut => none
  | .answer id _ o => some (.response id o)
  | _ => none

end Happening

namespace History

def handled (h : History κ) : List Arrival := h.filterMap Happening.handled?

theorem handled_append (h h' : History κ) : handled (h ++ h') = h.handled ++ h'.handled :=
  List.filterMap_append

theorem handled_eq_nil {h : History κ}
    (hx : ∀ x ∈ h, x.inIntake = true ∨ x.inExpiry = true ∨ x.inUpdate = true) :
    h.handled = [] := by
  refine List.filterMap_eq_nil_iff.mpr fun x hm => ?_
  have hx := hx x hm
  cases x with
  | deliver e => simp [Happening.inIntake, Happening.inExpiry, Happening.inUpdate] at hx
  | answer id code o =>
    cases o with
    | timedOut => rfl
    | _ => simp [Happening.inIntake, Happening.inExpiry, Happening.inUpdate] at hx
  | _ => rfl

end History

namespace Turn

variable (b : Behaviour κ σ) (t : Turn κ σ)

theorem receiveFrames_account (frames : List String) :
    (frames.foldl receive t).report.account =
      ((frames.map (Arrival.ofFrame t.world)).filter fun z => !z.isOk).foldl Account.enter
        t.report.account := by
  induction frames generalizing t with
  | nil => rfl
  | cons frame frames ih =>
    rw [List.foldl_cons, ih, receive_world, List.map_cons, receive]
    cases Arrival.ofFrame t.world frame <;> rfl

theorem receiveFrames_inbox (frames : List String) :
    (frames.foldl receive t).session.inbox =
      t.session.inbox ++ (frames.map (Arrival.ofFrame t.world)).filterMap Except.toOption := by
  induction frames generalizing t with
  | nil => exact (List.append_nil _).symm
  | cons frame frames ih =>
    rw [List.foldl_cons, ih, receive_world, List.map_cons, receive]
    cases Arrival.ofFrame t.world frame with
    | error d => rfl
    | ok a => exact List.append_assoc ..

theorem complete_account (id : RequestId) (code : κ) (o : Outcome) :
    (t.complete b id code o).report.account = t.report.account := by
  simp only [complete]
  split <;> rfl

theorem handle_fate (m : HostMessage) :
    ∃ z, m.arrival.MayMeet z ∧
      (t.handle b m.arrival).report.account = t.report.account.enter z ∧
      (t.handleDeeds b m.arrival).handled = z.toOption.toList := by
  cases m with
  | event name entity payload =>
    simp only [HostMessage.arrival, handle, handleDeeds]
    cases hx : entity.filter fun x => !t.world.isAlive x with
    | some x =>
      exact ⟨.error (.deadEntity name x), .gone rfl (Option.filter_eq_some_iff.mp hx).1, rfl, rfl⟩
    | none =>
      refine ⟨_, .handled, rfl, congrArg (_ :: ·) ?_⟩
      exact (Dispatch.deeds_filterMap (fun _ _ => rfl) b _ _ _).trans
        (List.filterMap_eq_nil_iff.mpr fun _ _ => rfl)
  | response id payload error =>
    simp only [HostMessage.arrival, handle, handleDeeds]
    rcases t.world.queries.resolve id with ⟨_ | code, queries⟩
    · exact ⟨.error (.unmatched id), .unmatched rfl, rfl, rfl⟩
    · refine ⟨_, .handled, ?_, ?_⟩
      · exact congrArg (Account.enter · (.ok (.response id _))) (complete_account b _ id code _)
      · have hn (o : Occasion) : History.handled
            ((t.session.setWorld { t.world with queries }).stage.deeds b code o) = [] :=
          Stage.deeds_filterMap (fun _ _ => rfl) b _ code o
        cases error with
        | none => exact congrArg (_ :: ·) (hn (.outcome (.resolved payload)))
        | some message => exact congrArg (_ :: ·) (hn (.outcome (.failed message)))

theorem handleAll_fates {as : List Arrival} (hm : ∀ a ∈ as, ∃ m : HostMessage, m.arrival = a) :
    ∃ zs, List.Forall₂ Arrival.MayMeet as zs ∧
      (as.foldl (handle b) t).report.account = zs.foldl Account.enter t.report.account ∧
      (t.along (handle b) (handleDeeds b) as).handled = zs.filterMap Except.toOption := by
  induction as generalizing t with
  | nil => exact ⟨[], .nil, rfl, rfl⟩
  | cons a as ih =>
    obtain ⟨m, rfl⟩ := hm a (.head _)
    obtain ⟨z, hz, hc, hd⟩ := handle_fate b t m
    obtain ⟨zs, hzs, hcs, hds⟩ := ih (t.handle b m.arrival) fun x hx => hm x (.tail _ hx)
    refine ⟨z :: zs, .cons hz hzs, ?_, ?_⟩
    · rw [List.foldl_cons, List.foldl_cons, hcs, hc]
    · rw [along, History.handled_append, hd, hds, List.filterMap_cons]
      cases z <;> rfl

theorem timeOut_account (q : RequestId × κ) :
    (t.timeOut b q).report.account = t.report.account :=
  complete_account b (t.log (.say .debug Target.session s!"Query '{q.1.text}' timed out")) _ _ _

theorem expire_account : (t.expire b).report.account = t.report.account :=
  foldl_keeps t.lapsed.2 (·.report.account) (timeOut_account b) t.lapsed.1

theorem update_account (dt : Binary64) : (t.update b dt).report.account = t.report.account := by
  simp only [update]
  split <;> rfl

end Turn

namespace Report

def messages (r : Report) : Nat := r.events + r.resolved + r.dropped.length

def total (f : Report → Nat) (rs : List Report) : Nat := rs.foldr (fun r n => f r + n) 0

theorem total_append (f : Report → Nat) (rs rs' : List Report) :
    total f (rs ++ rs') = total f rs + total f rs' := by
  induction rs with
  | nil => exact (Nat.zero_add _).symm
  | cons r rs ih => exact (congrArg (f r + ·) ih).trans (Nat.add_assoc ..).symm

/-- These are the fates of the frames that were taken in, as they are reported. -/
structure Settles (r : Report) (frames : List String) (d : History κ) (fates : List Fate) :
    Prop where
  each : List.Forall₂ Fate.Of frames fates
  events : r.events = fates.countP Fate.isEvent
  resolved : r.resolved = fates.countP Fate.isResponse
  dropped : r.dropped.Perm (fates.filterMap Fate.drop?)
  handled : d.handled = fates.filterMap Except.toOption

theorem Settles.messages_eq {r : Report} {frames : List String} {d : History κ}
    {fates : List Fate} (hs : r.Settles frames d fates) : r.messages = frames.length := by
  rw [messages, hs.events, hs.resolved, hs.dropped.length_eq, Fate.length_eq, hs.each.length_eq]

end Report

namespace Drop

def isDeadEntity : Drop → Bool
  | deadEntity .. => true
  | _ => false

def isUnmatched : Drop → Bool
  | unmatched _ => true
  | _ => false

def isMalformed : Drop → Bool
  | malformed _ => true
  | _ => false

end Drop

namespace Stats

def sum (rs : List Report) : Stats where
  ticks := rs.length
  batches := Report.total (·.flushed.toList.length) rs
  ops := Report.total (fun r => (r.flushed.map (·.ops)).getD 0) rs
  deadEntity := Report.total (·.dropped.countP Drop.isDeadEntity) rs
  unmatched := Report.total (·.dropped.countP Drop.isUnmatched) rs
  malformed := Report.total (·.dropped.countP Drop.isMalformed) rs
  systemFailures := Report.total (·.failures.length) rs
  handlerFailures := Report.total (·.handlerFailures) rs

def add (s s' : Stats) : Stats where
  ticks := s.ticks + s'.ticks
  batches := s.batches + s'.batches
  ops := s.ops + s'.ops
  deadEntity := s.deadEntity + s'.deadEntity
  unmatched := s.unmatched + s'.unmatched
  malformed := s.malformed + s'.malformed
  systemFailures := s.systemFailures + s'.systemFailures
  handlerFailures := s.handlerFailures + s'.handlerFailures

theorem foldl_countDrop (s : Stats) (ds : List Drop) :
    ds.foldl countDrop s = { s with
      deadEntity := s.deadEntity + ds.countP Drop.isDeadEntity
      unmatched := s.unmatched + ds.countP Drop.isUnmatched
      malformed := s.malformed + ds.countP Drop.isMalformed } := by
  induction ds generalizing s with
  | nil => rfl
  | cons d ds ih =>
    rw [List.foldl_cons, ih]
    cases d <;> simp [countDrop, List.countP_cons, Drop.isDeadEntity, Drop.isUnmatched,
      Drop.isMalformed] <;> omega

theorem foldl_count (s : Stats) (rs : List Report) : rs.foldl count s = s.add (sum rs) := by
  induction rs generalizing s with
  | nil => rfl
  | cons r rs ih =>
    rw [List.foldl_cons, ih, count, foldl_countDrop]
    simp only [add, sum, Report.total, List.foldr_cons, List.length_cons, Nat.add_assoc,
      Nat.add_comm 1]

end Stats

namespace Move

def isSend : Move κ σ → Bool
  | .send _ => true
  | _ => false

end Move

theorem Link.sceneSend_toScene {l l' : Link} {frame : String} (h : l.sceneSend frame = .ok l') :
    l'.toScene = l.toScene := by
  rw [sceneSend] at h
  split at h <;> cases h
  rfl

theorem Outbox.flush_toScene {o o' : Outbox} {l l' : Link} {ops : List Operation}
    {queries : List Request} {f : Option Flushed} (h : o.flush l ops queries = .ok (f, o', l')) :
    l'.toScene = l.toScene := by
  simp only [flush, bind, Except.bind] at h
  split at h
  · cases h
    rfl
  · split at h
    · cases h
    · split at h
      · cases h
      · rename_i hs
        cases h
        exact Link.sceneSend_toScene hs

namespace Session

def report? (b : Behaviour κ σ) (s : Session κ σ) : Move κ σ → Option Report
  | .tick dt => (s.tick b dt).1.toOption
  | _ => none

def reports (b : Behaviour κ σ) (s : Session κ σ) : List (Move κ σ) → List Report
  | [] => []
  | m :: ms => (s.report? b m).toList ++ (s.apply b m).reports b ms

section
variable {b : Behaviour κ σ} {dt : Binary64} {s : Session κ σ} {report : Report}

theorem receiveAll_account (s : Session κ σ) :
    (Turn.begin s).receiveAll.report.account =
      ((s.link.toScene.waiting.map (Arrival.ofFrame s.opened.world)).filter
        fun z => !z.isOk).foldl Account.enter ⟨0, 0, []⟩ :=
  s.opened.receiveFrames_account s.link.toScene.waiting

theorem receiveAll_inbox (hi : s.inbox = []) :
    (Turn.begin s).receiveAll.session.inbox =
      (s.link.toScene.waiting.map (Arrival.ofFrame s.opened.world)).filterMap Except.toOption := by
  have hr := s.opened.receiveFrames_inbox s.link.toScene.waiting
  rwa [show s.opened.session.inbox = [] from hi, List.nil_append] at hr

theorem message_of_frame {w : World κ} {frames : List String} {a : Arrival}
    (ha : a ∈ (frames.map (Arrival.ofFrame w)).filterMap Except.toOption) :
    ∃ m : HostMessage, m.arrival = a := by
  obtain ⟨z, hm, hz⟩ := List.mem_filterMap.mp ha
  obtain ⟨frame, _, rfl⟩ := List.mem_map.mp hm
  cases hf : Arrival.ofFrame w frame with
  | error d =>
    rw [hf] at hz
    cases hz
  | ok a' =>
    rw [hf] at hz
    obtain ⟨m, _, hm⟩ := Arrival.ofFrame_ok hf
    exact ⟨m, hm.trans (Option.some.inj hz)⟩

theorem flush_account {t : Turn κ σ} (hk : t.flush.1 = .ok report) :
    report.account = t.report.account := (congrArg Report.account (flush_ok hk)).trans rfl

theorem worked_account (b : Behaviour κ σ) (dt : Binary64) (s : Session κ σ) :
    (s.worked b dt).report.account = (s.dispatched b).report.account :=
  ((s.dispatched b).expire b).update_account b dt |>.trans ((s.dispatched b).expire_account b)

theorem deeds_handled (hf : s.failure = none)
    (hd : ¬ (Turn.begin s).receiveAll.session.link.toScene.isDry = true) :
    (s.deeds b (.tick dt)).handled = ((Turn.begin s).receiveAll.dispatchDeeds b).handled := by
  have heard : History.handled (.begin :: s.link.toScene.waiting.map .hear : History κ) = [] :=
    History.handled_eq_nil fun x hx => .inl (intake_inIntake hx)
  have late : ((s.dispatched b).expireDeeds b).handled = [] :=
    History.handled_eq_nil fun x hx => .inr (.inl (Turn.expireDeeds_inExpiry hx))
  have run : (((s.dispatched b).expire b).updateDeeds b dt).handled = [] :=
    History.handled_eq_nil fun x hx => .inr (.inr (Turn.updateDeeds_inUpdate hx))
  have told : History.handled [(s.worked b dt).telling] = [] := rfl
  rw [deeds_opening hf hd, opening]
  simp only [History.handled_append, heard, late, run, told, List.append_nil, List.nil_append]

theorem tick_settles (hi : s.inbox = []) (hk : (s.tick b dt).1 = .ok report) :
    ∃ fates, report.Settles s.link.toScene.waiting (s.deeds b (.tick dt)) fates := by
  obtain ⟨hf, hs⟩ := tick_isOk (isOk_of_tick hk)
  let t := (Turn.begin s).receiveAll
  have ht : t.session.inbox = _ := receiveAll_inbox hi
  have hm (a : Arrival) (ha : a ∈ t.session.inbox) : ∃ m : HostMessage, m.arrival = a :=
    message_of_frame (ht ▸ ha)
  obtain ⟨zs, hz, hc, hh⟩ := t.gathered.handleAll_fates b hm
  rw [ht] at hz
  obtain ⟨fates, ho, hp, he⟩ := Fate.weave s.opened.world s.link.toScene.waiting hz
  have hr : report.account =
      ((s.link.toScene.waiting.map (Arrival.ofFrame s.opened.world)).filter (fun z => !z.isOk)
        ++ zs).foldl Account.enter ⟨0, 0, []⟩ := by
    rw [List.foldl_append, ← receiveAll_account, flush_account (tick_flush hk).1, worked_account]
    exact hc
  have hd : (s.deeds b (.tick dt)).handled = zs.filterMap Except.toOption :=
    (deeds_handled hf (not_dry hs)).trans hh
  rw [Account.foldl_enter] at hr
  refine ⟨fates, ho, ?_, ?_, ?_, hd.trans he.symm⟩
  · rw [hp.countP_eq]
    exact (congrArg Account.events hr).trans (Nat.zero_add _)
  · rw [hp.countP_eq]
    exact (congrArg Account.resolved hr).trans (Nat.zero_add _)
  · rw [show report.dropped = _ from congrArg Account.dropped hr]
    exact (hp.filterMap _).symm

end

theorem flush_toScene (t : Turn κ σ) : t.flush.2.link.toScene = t.session.link.toScene := by
  rw [Turn.flush_eq]
  split
  · exact Outbox.flush_toScene ‹_›
  · exact Outbox.flush_toScene ‹_›
  · rfl

section
variable (b : Behaviour κ σ) (dt : Binary64) (s : Session κ σ)

theorem step_stats : (s.step b dt).2.stats = s.stats := by
  by_cases hd : (Turn.begin s).receiveAll.session.link.toScene.isDry = true
  · rw [step_dry b dt hd]
    exact congrArg Backdrop.stats (Turn.receiveFrames_backdrop s.opened s.link.toScene.waiting)
  · rw [step_wet b dt hd, flush_session]
    exact congrArg Backdrop.stats (worked_backdrop b dt s)

theorem step_toScene : (s.step b dt).2.link.toScene = s.link.toScene.takeAll.2 := by
  by_cases hd : (Turn.begin s).receiveAll.session.link.toScene.isDry = true
  · rw [step_dry b dt hd]
    exact congrArg (fun d => d.link.toScene)
      (Turn.receiveFrames_backdrop s.opened s.link.toScene.waiting)
  · rw [step_wet b dt hd, flush_toScene]
    exact congrArg (fun d => d.link.toScene) (worked_backdrop b dt s)

theorem tick_toScene {s : Session κ σ} (hf : s.failure = none) :
    (s.tick b dt).2.link.toScene = s.link.toScene.takeAll.2 := by
  have hl := step_toScene b dt s
  rw [tick, hf]
  rcases hr : s.step b dt with ⟨f | r, u⟩ <;> rw [hr] at hl <;> exact hl

theorem apply_send {s : Session κ σ} (frame : String) (hr : s.link.toScene.hasReceiver = true) :
    s.apply b (.send frame) =
      { s with link.toScene.waiting := s.link.toScene.waiting ++ [frame] } := by
  rw [apply, Link.hostSend, Lane.send?, if_pos hr]

theorem apply_failure {s : Session κ σ} {f : Failure} (hf : s.failure = some f) (m : Move κ σ) :
    (s.apply b m).failure = some f := by
  obtain ⟨a, rfl⟩ | ⟨dt, rfl⟩ | ⟨_, memory, journal, paused, link, he, _⟩ := apply_cases b s m
  · exact hf
  · rw [apply, tick_failed (congrArg Option.isSome hf)]
    exact hf
  · rw [he]
    exact hf

theorem after_failure {s : Session κ σ} {f : Failure} (hf : s.failure = some f)
    (ms : List (Move κ σ)) : (s.after b ms).failure = some f :=
  List.foldlRecOn (motive := fun u => u.failure = some f) ms (apply b) hf fun _ hf m _ =>
    apply_failure b hf m

theorem tick_stats :
    (s.tick b dt).2.stats = (s.report? b (.tick dt)).toList.foldl Stats.count s.stats := by
  have hs := step_stats b dt s
  rw [report?, tick]
  cases s.failure with
  | some f => rfl
  | none =>
    rcases hr : s.step b dt with ⟨f | r, u⟩ <;> rw [hr] at hs
    · exact hs
    · exact congrArg (Stats.count · r) hs

theorem apply_stats (m : Move κ σ) :
    (s.apply b m).stats = (s.report? b m).toList.foldl Stats.count s.stats := by
  cases m with
  | tick dt => exact tick_stats b dt s
  | pause =>
    rw [apply, pause]
    split <;> rfl
  | resume =>
    rw [apply, resume]
    split <;> rfl
  | send frame =>
    rw [apply]
    split <;> rfl
  | _ => rfl

theorem after_stats (ms : List (Move κ σ)) :
    (s.after b ms).stats = (s.reports b ms).foldl Stats.count s.stats := by
  induction ms generalizing s with
  | nil => rfl
  | cons m ms ih =>
    rw [reports, List.foldl_append, ← apply_stats]
    exact ih (s.apply b m)

end

/-- A session between two ticks has dealt with all that it has taken in. -/
structure Ready (s : Session κ σ) : Prop where
  idle : s.inbox = [] ∨ s.failure = some (.link .hostGone)
  reachable : s.link.toScene.hasReceiver = true

namespace Ready

variable {s : Session κ σ}

theorem start (config : Config) (types : Registry) (memory : σ) :
    (start config ({ types } : World κ) memory).Ready := ⟨.inl rfl, rfl⟩

theorem tick (hs : s.Ready) (b : Behaviour κ σ) (dt : Binary64) : (s.tick b dt).2.Ready := by
  by_cases hn : s.isFailed = true
  · rw [tick_failed hn]
    exact hs
  have hf : s.failure = none := Option.not_isSome_iff_eq_none.mp hn
  refine ⟨?_, (congrArg Lane.hasReceiver (tick_toScene b dt hf)).trans hs.reachable⟩
  rw [Session.tick, hf]
  by_cases hd : (Turn.begin s).receiveAll.session.link.toScene.isDry = true
  · rw [step_dry b dt hd]
    exact .inr rfl
  · have hi : (s.step b dt).2.inbox = [] := by
      rw [step_wet b dt hd, flush_session]
      exact congrArg Backdrop.inbox (worked_backdrop b dt s)
    rcases hr : s.step b dt with ⟨f | r, u⟩ <;> rw [hr] at hi <;> exact .inl hi

theorem apply (hs : s.Ready) (b : Behaviour κ σ) (m : Move κ σ) : (s.apply b m).Ready := by
  obtain ⟨a, rfl⟩ | ⟨dt, rfl⟩ | ⟨_, memory, journal, paused, link, he, _, hr⟩ := apply_cases b s m
  · exact ⟨hs.idle, hs.reachable⟩
  · exact hs.tick b dt
  · rw [he]
    exact ⟨hs.idle, hr.trans hs.reachable⟩

theorem after (hs : s.Ready) (b : Behaviour κ σ) (ms : List (Move κ σ)) :
    (s.after b ms).Ready :=
  List.foldlRecOn ms (Session.apply b) hs fun _ hs m _ => hs.apply b m

theorem apply_messages (hs : s.Ready) {b : Behaviour κ σ} {m : Move κ σ}
    (hf : (s.apply b m).failure = none) :
    [m].countP Move.isSend + s.link.toScene.waiting.length =
      Report.total Report.messages (s.report? b m).toList +
        (s.apply b m).link.toScene.waiting.length := by
  have still {u : Session κ σ} (hw : u.link.toScene.waiting = s.link.toScene.waiting) :
      0 + s.link.toScene.waiting.length = 0 + u.link.toScene.waiting.length := by rw [hw]
  cases m with
  | tick dt =>
    obtain ⟨report, hk⟩ := exists_report b dt s (isOk_of_failure hf)
    have hn : s.failure = none := (tick_isOk (isOk_of_tick hk)).1
    obtain ⟨fates, hr⟩ := tick_settles
      (hs.idle.resolve_right fun h => Option.some_ne_none _ (h.symm.trans hn)) hk
    have hw : (s.apply b (.tick dt)).link.toScene.waiting = [] :=
      congrArg Lane.waiting (tick_toScene b dt hn)
    have ht : s.report? b (.tick dt) = some report := by rw [report?, hk, Except.toOption]
    rw [ht, hw, ← hr.messages_eq]
    exact Nat.zero_add _
  | pause =>
    refine still ?_
    rw [Session.apply, pause]
    split <;> rfl
  | resume =>
    refine still ?_
    rw [Session.apply, resume]
    split <;> rfl
  | send frame =>
    rw [apply_send b frame hs.reachable]
    simp [report?, Report.total, Move.isSend, Nat.add_comm]
  | _ => exact still rfl

theorem after_messages (hs : s.Ready) {b : Behaviour κ σ} {ms : List (Move κ σ)}
    (hf : (s.after b ms).failure = none) :
    ms.countP Move.isSend + s.link.toScene.waiting.length =
      Report.total Report.messages (s.reports b ms) +
        (s.after b ms).link.toScene.waiting.length := by
  induction ms generalizing s with
  | nil => rfl
  | cons m ms ih =>
    have hm : (s.apply b m).failure = none := by
      cases hn : (s.apply b m).failure with
      | none => rfl
      | some f => exact absurd (hf.symm.trans (after_failure b hn ms)) (Option.some_ne_none _).symm
    have ht := hs.apply_messages hm
    have hr := ih (hs.apply b m) hf
    have hc : ([m] ++ ms).countP Move.isSend = [m].countP Move.isSend + ms.countP Move.isSend :=
      List.countP_append
    rw [List.singleton_append] at hc
    rw [hc, reports, Report.total_append]
    change _ = _ + ((s.apply b m).after b ms).link.toScene.waiting.length
    omega

end Ready

def waiting (s : Session κ σ) : List String := s.link.toScene.waiting

/-- Every frame that waits when a tick begins is settled in that tick, if the tick succeeds: it is
handled or dropped, and counted as one of the two, and what is handled keeps its order. Nothing is
left over between two ticks. What the session counts are the sums over the reports, and every frame
that the host has sent is in one of them or still waits. -/
theorem messages_settle_once (b : Behaviour κ σ) (config : Config) (types : Registry) (memory : σ)
    (moves : List (Move κ σ)) :
    let s := start config ({ types } : World κ) memory
    let u := s.after b moves
    let reports := s.reports b moves
    (u.inbox = [] ∨ u.failure = some (.link .hostGone)) ∧
    (∀ dt report, (u.tick b dt).1 = .ok report →
      report.events + report.resolved + report.dropped.length = u.waiting.length ∧
      ∃ fates, report.Settles u.waiting (u.deeds b (.tick dt)) fates) ∧
    u.stats = Stats.sum reports ∧
    (u.failure = none → moves.countP Move.isSend =
      Report.total Report.messages reports + u.waiting.length) := by
  intro s u reports
  have hs : s.Ready := .start config types memory
  have hu : u.Ready := hs.after b moves
  refine ⟨hu.idle, fun dt report hk => ?_, ?_, fun hf => hs.after_messages hf⟩
  · have hi := hu.idle.resolve_right fun h =>
      Option.some_ne_none _ (h.symm.trans (tick_isOk (isOk_of_tick hk)).1)
    obtain ⟨fates, hr⟩ := tick_settles hi hk
    exact ⟨hr.messages_eq, fates, hr⟩
  · have ht : u.stats = Stats.add {} (Stats.sum reports) :=
      (after_stats b s moves).trans (Stats.foldl_count ..)
    rw [ht]
    simp only [Stats.add, Nat.zero_add]

theorem exists_report_of (b : Behaviour κ σ) (dt : Binary64) (s : Session κ σ) (p : Report → Bool)
    (hk : (s.tick b dt).1.toOption.any p = true) :
    ∃ report, (s.tick b dt).1 = .ok report ∧ p report = true := by
  rcases hr : s.tick b dt with ⟨f | report, u⟩
  · rw [hr] at hk
    cases hk
  · rw [hr] at hk
    exact ⟨report, rfl, hk⟩

/-- Of five frames one is an event for an entity and one the answer to a query. The three that are
dropped are for an entity that never was, for a query that was never asked, and no message. -/
theorem messages_settle_once_mixed :
    let s := start {} ({ types := ∅ } : World Unit) ()
    let ms : List (Move Unit Unit) := [.act .create, .act (.ask "a" .null ()), .tick ⟨0⟩,
      .send "\x7b\"type\":\"event\",\"eventName\":\"e\",\"entityId\":9\x7d", .send "\x7b",
      .send "\x7b\"type\":\"queryResponse\",\"requestId\":\"q1\"\x7d",
      .send "\x7b\"type\":\"queryResponse\",\"requestId\":\"q9\"\x7d",
      .send "\x7b\"type\":\"event\",\"eventName\":\"e\",\"entityId\":1\x7d"]
    let u := s.after .idle ms
    ∃ report fates, (u.tick .idle ⟨0⟩).1 = .ok report ∧
      report.Settles u.waiting (u.deeds .idle (.tick ⟨0⟩)) fates ∧
      report.events = 1 ∧ report.resolved = 1 ∧ report.dropped.length = 3 ∧
      Report.total Report.messages (s.reports .idle (ms ++ [.tick ⟨0⟩])) +
        (s.after .idle (ms ++ [.tick ⟨0⟩])).waiting.length = 5 := by
  intro s ms u
  obtain ⟨_, ht, _⟩ := messages_settle_once .idle {} ∅ () ms
  obtain ⟨_, _, _, hc⟩ := messages_settle_once .idle {} ∅ () (ms ++ [.tick ⟨0⟩])
  obtain ⟨report, hk, hp⟩ := exists_report_of .idle ⟨0⟩ u
    (fun r => (r.events, r.resolved, r.dropped.length) = (1, 1, 3)) (by decide +kernel)
  obtain ⟨_, fates, hr⟩ := ht ⟨0⟩ report hk
  have hv := of_decide_eq_true hp
  rw [Prod.mk.injEq, Prod.mk.injEq] at hv
  have hn : (ms ++ [Move.tick ⟨0⟩]).countP Move.isSend = 5 := rfl
  exact ⟨report, fates, hk, hr, hv.1, hv.2.1, hv.2.2, (hc (by decide +kernel)).symm.trans hn⟩

end Session

end Diorama
