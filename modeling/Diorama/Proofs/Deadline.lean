import Diorama.Proofs.Awaited
import Diorama.Proofs.Fates
import Diorama.Proofs.Silence

namespace Diorama

open Moment

variable {κ σ : Type}

namespace Happening

def timedOut? : Happening κ → Option RequestId
  | .answer id _ .timedOut => some id
  | _ => none

theorem answered?_eq_some {x : Happening κ} {id : RequestId} :
    x.answered? = some id ↔ ∃ code o, x = .answer id code o := by
  cases x with
  | answer j code o => simp [answered?]
  | _ => simp [answered?]

end Happening

def History.timedOut (h : History κ) : List RequestId := h.filterMap Happening.timedOut?

theorem Stage.deeds_timedOut (s : Stage κ σ) (b : Behaviour κ σ) (code : κ) (o : Occasion) :
    (s.deeds b code o).timedOut = [] := Stage.deeds_filterMap (fun _ _ => rfl) b s code o

theorem History.timedOut_append (h h' : History κ) :
    timedOut (h ++ h') = h.timedOut ++ h'.timedOut := List.filterMap_append

theorem Schedule.deeds_timedOut (b : Behaviour κ σ) (dt : Binary64) (ms : Members (System κ))
    (s : Stage κ σ) : (deeds b dt ms s).timedOut = [] :=
  (deeds_filterMap (fun _ _ => rfl) b s dt ms).trans (List.filterMap_eq_nil_iff.mpr fun _ _ => rfl)

theorem Dispatch.deeds_timedOut (b : Behaviour κ σ) (e : HostEvent)
    (ms : Members (Subscription κ)) (s : Stage κ σ) : (deeds b e ms s).timedOut = [] :=
  (deeds_filterMap (fun _ _ => rfl) b s e ms).trans (List.filterMap_eq_nil_iff.mpr fun _ _ => rfl)

namespace Turn

variable (b : Behaviour κ σ) (t : Turn κ σ)

theorem along_timedOut {α : Type} (deal : Turn κ σ → α → Turn κ σ)
    (deeds : Turn κ σ → α → History κ) (as : List α) {f : α → List RequestId}
    (hf : ∀ t, ∀ a ∈ as, (deeds t a).timedOut = f a) :
    (along deal deeds t as).timedOut = as.flatMap f := by
  induction as generalizing t with
  | nil => rfl
  | cons a as ih =>
    rw [along, History.timedOut_append, hf t a (.head _), List.flatMap_cons,
      ih _ fun t x hx => hf t x (.tail _ hx)]

theorem handleDeeds_timedOut {a : Arrival} (ha : ∀ id, a ≠ .response id .timedOut) :
    (t.handleDeeds b a).timedOut = [] := by
  cases a with
  | event e =>
    rw [handleDeeds]
    split
    · rfl
    · exact Dispatch.deeds_timedOut b e _ _
  | response id o =>
    rw [handleDeeds]
    split
    · have ho : o ≠ .timedOut := fun h => ha id (h ▸ rfl)
      rename_i code queries _
      have hn : (Happening.answer id code o).timedOut? = none := by
        cases o <;> first | rfl | exact absurd rfl ho
      rw [History.timedOut, List.filterMap_cons, hn]
      exact Stage.deeds_timedOut _ b code _
    · rfl

theorem dispatchDeeds_timedOut (hi : ∀ id, .response id .timedOut ∉ t.session.inbox) :
    (t.dispatchDeeds b).timedOut = [] := by
  have hd := along_timedOut t.gathered (handle b) (handleDeeds b) t.session.inbox fun t a ha =>
    handleDeeds_timedOut b t fun id he => hi id (he ▸ ha)
  exact hd.trans (List.flatMap_eq_nil_iff.mpr fun a _ => rfl)

theorem timeOutDeeds_timedOut (q : RequestId × κ) : (t.timeOutDeeds b q).timedOut = [q.1] :=
  congrArg (q.1 :: ·) (Stage.deeds_timedOut t.session.stage b q.2 _)

theorem expireDeeds_timedOut : (t.expireDeeds b).timedOut = t.lapsed.1.map (·.1) := by
  rw [List.map_eq_flatMap]
  exact along_timedOut t.lapsed.2 (timeOut b) (timeOutDeeds b) t.lapsed.1 fun t q _ =>
    timeOutDeeds_timedOut b t q

theorem updateDeeds_timedOut (dt : Binary64) : (t.updateDeeds b dt).timedOut = [] := by
  rw [updateDeeds]
  split
  · rfl
  · exact Schedule.deeds_timedOut b dt _ _

end Turn

theorem HostMessage.arrival_ne (m : HostMessage) (id : RequestId) :
    m.arrival ≠ .response id .timedOut := by
  cases m with
  | event name entity payload => exact Arrival.noConfusion
  | response request payload error =>
    intro h
    cases error <;> cases h

theorem Desk.Step.kept {d d' : Desk κ} {x : Happening κ} {id : RequestId} {p : Pending κ}
    (hx : d.Step x d') (hf : x.isFlush = false) (hg : d'.queries.pending.get? id = some p) :
    d.queries.pending.get? id = some p ∨ p.sent = none ∧ x.asked? = some id := by
  cases hx with
  | ask query payload code hp =>
    rw [Queries.issue_get?] at hg
    split at hg
    · rename_i hi
      obtain rfl := Option.some.inj hg
      exact .inr ⟨rfl, congrArg some hi⟩
    · exact .inl hg
  | cancel j hp =>
    rw [Queries.cancel_get?] at hg
    split at hg
    · cases hg
    · exact .inl hg
  | answer hp hi hc =>
    rw [Queries.resolve_get?] at hg
    split at hg
    · cases hg
    · exact .inl hg
  | lapse now timeout hp hi hl =>
    rw [Queries.expire_get?] at hg
    split at hg
    · cases hg
    · exact .inl hg
  | flush w batch result tick hp hi hl => cases hf
  | _ => exact .inl hg

namespace Moment

variable {m m' : Moment κ} {g h : History κ} {x : Happening κ} {id : RequestId} {p : Pending κ}
  {tick : Nat} {types : Registry}

/-- The tick whose batch comes next. -/
def next (m : Moment κ) : Nat := if m.phase = .rest then m.world.tick + 1 else m.world.tick

theorem next_of_rest (hp : m.phase = .rest) : m.next = m.world.tick + 1 := if_pos hp

theorem next_of_work (hp : m.phase = .work) : m.next = m.world.tick := if_neg (by simp [hp])

theorem tick_le_next (m : Moment κ) : m.world.tick ≤ m.next := by
  rw [next]
  split
  · exact Nat.le_succ _
  · exact Nat.le_refl _

theorem Step.next_le (hx : Step m x m') : m.next ≤ m'.next := by
  have hn := tick_le_next m'
  cases hx with
  | act a hp => simp only [next, World.perform_tick, Nat.le_refl]
  | begin hp => simp [next, hp]
  | lose hp => simp [next, hp]
  | gather ms hp => simp [next, hp, Dispatch.gather]
  | flush seq result hp hi hl hr => exact Nat.le_trans (Nat.le_of_eq (next_of_work hp)) hn
  | _ => exact Nat.le_refl _

theorem Trail.next_le (hh : Trail m h m') : m.next ≤ m'.next := by
  induction hh with
  | nil => exact Nat.le_refl _
  | snoc _ hx ih => exact Nat.le_trans ih hx.next_le

theorem Trail.begun (hh : Trail m h m') :
    m'.world.tick = m.world.tick + h.countP Happening.isBegin := by
  induction hh with
  | nil => rfl
  | @snoc h m₁ m₂ x hm hx ih =>
    rw [List.countP_append, ← Nat.add_assoc, ← ih]
    cases hx with
    | act a hp => exact World.perform_tick ..
    | _ => rfl

theorem Step.flushed (hx : Step m x m') (hf : x.isFlush = true)
    (hg : m'.world.queries.pending.get? id = some p) :
    m.next = m.world.tick ∧ ∃ q, m.world.queries.pending.get? id = some q ∧
      p = if id ∈ m.world.queries.outgoing.map (·.id) then { q with sent := some m.world.tick }
        else q := by
  cases hx with
  | flush seq result hp hi hl hr =>
    rw [Queries.takeOutgoing_get?, Option.map_eq_some_iff] at hg
    obtain ⟨q, hg, he⟩ := hg
    exact ⟨next_of_work hp, q, hg, he.symm⟩
  | _ => cases hf

/-- A query is stamped as it was, or with a tick whose batch has come since. -/
theorem Trail.stamped (hh : Trail m h m') (hg : m'.world.queries.pending.get? id = some p)
    (hs : p.sent = some tick) :
    m.world.queries.pending.get? id = some p ∨ m.next ≤ tick := by
  induction hh with
  | nil => exact .inl hg
  | @snoc h m₁ m₂ x hm hx ih =>
    by_cases hf : x.isFlush = true
    · obtain ⟨hn, q, hq, he⟩ := hx.flushed hf hg
      split at he
      · rw [he] at hs
        exact .inr (Option.some.inj hs ▸ hn ▸ hm.next_le)
      · exact ih (he ▸ hq)
    · obtain hg | ⟨hn, _⟩ := hx.desk.kept (Bool.not_eq_true _ ▸ hf) hg
      · exact ih hg
      · rw [hn] at hs
        cases hs

theorem Step.not_over (hx : Step m x m') (hp : m'.phase ≠ .over) : m.phase ≠ .over := by
  cases hx with
  | act a hn => exact hp
  | notify h e hn => exact hp
  | update h hn => exact hp
  | begin hn | hear frame hn | lose hn | gather ms hn | deliver hn | dropEvent e hn
    | dropResponse hn | answer hn | lapse timeout hn | timeOut hn | convene ms hn
    | flush seq result hn => simp [hn]

theorem Step.carried_flush (hx : Step m x m') (hf : x.isFlush = true) (hp : m'.phase ≠ .over) :
    x.carried = m.world.queries.outgoing.map fun r => (m.world.tick, r.id) := by
  cases hx with
  | flush seq result hw hi hl hr =>
    rcases result with f | _ | f
    · exact absurd rfl hp
    · have ho : m.world.queries.outgoing = [] := Batch.queries_of_isEmpty (hr rfl)
      rw [ho]
      rfl
    · rfl
  | _ => cases hf

/-- A pending query is stamped with the tick in whose batch it was carried. -/
theorem Trail.sent_iff (hh : Trail (.fresh types) h m) (hp : m.phase ≠ .over)
    (hg : m.world.queries.pending.get? id = some p) :
    p.sent = some tick ↔ (tick, id) ∈ h.carried := by
  induction hh generalizing p with
  | nil => cases hg
  | @snoc h m₁ m₂ x hm hx ih =>
    have hp₁ := hx.not_over hp
    rw [History.carried_concat]
    by_cases hf : x.isFlush = true
    · obtain ⟨_, q, hq, rfl⟩ := hx.flushed hf hg
      rw [hx.carried_flush hf hp, List.mem_append]
      by_cases hi : id ∈ m₁.world.queries.outgoing.map (·.id)
      · rw [if_pos hi]
        -- What still waits to be sent is in no batch yet.
        have hn : (tick, id) ∉ h.carried := fun ht =>
          (List.nodup_append.mp hm.nodup_carried).2.2 _ (List.mem_map_of_mem ht) _ hi rfl
        obtain ⟨r, hr, rfl⟩ := List.mem_map.mp hi
        constructor
        · intro ht
          exact .inr (List.mem_map.mpr ⟨r, hr, congrArg (·, r.id) (Option.some.inj ht)⟩)
        · intro ht
          obtain ⟨_, _, he⟩ := List.mem_map.mp (ht.resolve_left hn)
          exact congrArg some (congrArg Prod.fst he)
      · rw [if_neg hi, ih hp₁ hq]
        refine (or_iff_left fun ht => hi ?_).symm
        obtain ⟨r, hr, he⟩ := List.mem_map.mp ht
        exact List.mem_map.mpr ⟨r, hr, congrArg Prod.snd he⟩
    · have hf := Bool.not_eq_true _ ▸ hf
      rw [Happening.carried_of_not_flush hf, List.append_nil]
      obtain hg | ⟨hn, ha⟩ := hx.desk.kept hf hg
      · exact ih hp₁ hg
      -- It has just been asked, and so it is in no batch yet.
      · have hi := Recent.asks_new hm.ledger hx.desk ha
        rw [hn]
        refine iff_of_false (Option.some_ne_none _).symm fun hc => hi ?_
        exact hm.carried.subset (List.mem_append_left _ (List.mem_map_of_mem hc))

theorem Trail.settled (hg : Trail (.fresh types) g m) (hh : Trail m h m')
    (hq : m.world.queries.isPending id = true) {o : Outcome} (hr : g.response? id = some o)
    (hp : m'.phase ≠ .over) (hi : m'.inbox = []) :
    m'.world.queries.isPending id = false ∧
      (id ∈ h.cancelled ∨ ∃ code, .answer id code o ∈ h) := by
  have ht := hg.trans hh
  have heard (hn : (g ++ h : History κ).response? id = none) : False := by
    rw [History.heard_append hr] at hn
    cases hn
  have hn : m'.world.queries.isPending id = false := by
    by_contra hn
    refine heard ?_
    rw [ht.heard.first hp (Bool.not_eq_false _ ▸ hn), Moment.desk, hi]
    rfl
  refine ⟨hn, ?_⟩
  obtain ⟨hc, ha⟩ := hg.ledger.unended hq
  have hs : id ∈ (g ++ h : History κ).asked := by
    rw [History.asked_append]
    exact List.mem_append_left _ (hg.ledger.asked_of_pending hq)
  by_cases hm : id ∈ (g ++ h : History κ).answered
  · rw [History.answered, List.filterMap_append, List.mem_append] at hm
    obtain ⟨x, hx, he⟩ := List.mem_filterMap.mp (hm.resolve_left ha)
    obtain ⟨code, o', rfl⟩ := Happening.answered?_eq_some.mp he
    obtain ⟨d, d', rfl⟩ := List.append_of_mem hx
    obtain ⟨m₁, _, hd, hx', _⟩ := hh.split_at
    obtain ⟨ho, _⟩ := (hg.trans hd).answer hx'.desk
    rw [History.heard_append hr] at ho
    exact .inr ⟨code, ho ▸ hx⟩
  · obtain hq | hl | hm := ht.ledger.unanswered hs hm
    · exact absurd hq (Bool.not_eq_true _ ▸ hn)
    · exact (heard (ht.heard.late hl)).elim
    · rw [History.cancelled, List.filterMap_append, List.mem_append] at hm
      exact .inl (hm.resolve_left hc)

end Moment

namespace Session

/-- What the host says first of a query in the frames that wait to be taken in. -/
def incoming? (s : Session κ σ) (id : RequestId) : Option Outcome :=
  (s.link.toScene.waiting.map .hear : History κ).findSome? (Happening.response? id)

section
variable (b : Behaviour κ σ) (dt : Binary64) (s : Session κ σ)

theorem dispatched_now : (s.dispatched b).world.tick = s.world.tick + 1 :=
  congrArg Backdrop.now (dispatched_backdrop b s)

theorem mem_lapsed_iff (id : RequestId) :
    id ∈ (s.dispatched b).lapsed.1.map (·.1) ↔
      0 < s.config.queryTimeoutTicks ∧ ∃ p sent,
        (s.dispatched b).world.queries.pending.get? id = some p ∧ p.sent = some sent ∧
          s.config.queryTimeoutTicks ≤ s.world.tick + 1 - sent := by
  have hc : (s.dispatched b).session.config = s.config :=
    congrArg Backdrop.config (dispatched_backdrop b s)
  have hl : (s.dispatched b).lapsed.1 = ((s.dispatched b).world.queries.expire
      (s.world.tick + 1) s.config.queryTimeoutTicks).1 := by
    rw [Turn.lapsed, dispatched_now, hc]
  rw [hl]
  exact Queries.mem_expired ..

theorem tick_config : (s.tick b dt).2.config = s.config := by
  have hs : (s.step b dt).2.config = s.config := by
    by_cases hd : (Turn.begin s).receiveAll.session.link.toScene.isDry = true
    · rw [step_dry b dt hd]
      exact congrArg Backdrop.config (Turn.receiveFrames_backdrop s.opened s.link.toScene.waiting)
    · rw [step_wet b dt hd, flush_session]
      exact congrArg Backdrop.config (worked_backdrop b dt s)
  rw [tick]
  split
  · rfl
  · rcases hr : s.step b dt with ⟨f | r, u⟩ <;> rwa [hr] at hs

end

section
variable {b : Behaviour κ σ} {dt : Binary64} {s : Session κ σ}

theorem lapsed_trail (hk : (s.tick b dt).1.isOk = true) :
    ∃ g, Trail ((s.dispatched b).lapsed.2.moment .work [] (s.dispatched b).lapsed.1) g
      (s.tick b dt).2.moment := by
  obtain ⟨hf, hs⟩ := tick_isOk hk
  have he := Turn.along_trail (s.dispatched b).lapsed.2 (fun t late => t.moment .work [] late)
    (Turn.timeOut_trail b) (s.dispatched b).lapsed.1
  have hu := Turn.update_trail b ((s.dispatched b).expire b) dt
  exact ⟨_, .snoc (he.trans hu) (telling_step b dt hf (not_dry hs))⟩

theorem tick_now (hk : (s.tick b dt).1.isOk = true) :
    (s.tick b dt).2.world.tick = s.world.tick + 1 := by
  obtain ⟨hf, hs⟩ := tick_isOk hk
  have hw : (s.tick b dt).2.world = (s.step b dt).2.world :=
    congrArg Moment.world (tick_moment b dt hf)
  rw [hw, step_isOk hs, Turn.flush_world]
  exact congrArg Backdrop.now (worked_backdrop b dt s)

end

structure InTime (timeout : Nat) (s : Session κ σ) : Prop where
  limit : s.config.queryTimeoutTicks = timeout
  due {id : RequestId} {p : Pending κ} {sent : Nat} : 0 < timeout → s.failure = none →
    s.world.queries.pending.get? id = some p → p.sent = some sent → s.world.tick < sent + timeout

namespace InTime

variable {timeout : Nat} {s : Session κ σ}

theorem start (config : Config) (types : Registry) (memory : σ) :
    (start config ({ types } : World κ) memory).InTime config.queryTimeoutTicks where
  limit := rfl
  due _ _ hg := absurd hg.symm (Option.some_ne_none _)

theorem tick (hs : s.InTime timeout) (b : Behaviour κ σ) (dt : Binary64) :
    (s.tick b dt).2.InTime timeout := by
  refine ⟨(congrArg _ (tick_config b dt s)).trans hs.limit, fun {id p sent} ht hf hg hp => ?_⟩
  have hk := isOk_of_failure hf
  obtain ⟨g, hh⟩ := lapsed_trail hk
  have hn : (s.dispatched b).world.tick = s.world.tick + 1 := dispatched_now b s
  rw [tick_now hk]
  obtain hl | hl := hh.stamped hg hp
  -- It was there when the queries were taken out whose time was up, and was not one of them.
  · have hq : (s.dispatched b).lapsed.2.world.queries.pending.get? id = some p := hl
    have he := ((s.dispatched b).world.queries.expire_get? id (s.dispatched b).world.tick
      (s.dispatched b).session.config.queryTimeoutTicks).symm.trans hq
    split at he
    · cases he
    · rename_i hm
      by_contra hc
      refine hm ((mem_lapsed_iff b s id).mpr ⟨hs.limit ▸ ht, p, sent, he, hp, ?_⟩)
      rw [hs.limit]
      omega
  · have hl : (s.dispatched b).world.tick ≤ sent := by
      rwa [next_of_work rfl] at hl
    omega

theorem act (hs : s.InTime timeout) (a : Action κ) :
    (s.setWorld (s.world.perform a).2).InTime timeout := by
  refine ⟨hs.limit, fun {id p sent} ht hf hg hp => ?_⟩
  have hn : (s.world.perform a).2.tick = s.world.tick := World.perform_tick ..
  obtain hl | hl := (act_trail s a).stamped hg hp
  · exact hn ▸ hs.due ht hf hl hp
  · have hm : s.world.tick ≤ sent := Nat.le_trans (tick_le_next s.moment) hl
    rw [show (s.setWorld (s.world.perform a).2).world.tick = s.world.tick from hn]
    omega

theorem apply (hs : s.InTime timeout) (b : Behaviour κ σ) (m : Move κ σ) :
    (s.apply b m).InTime timeout := by
  obtain ⟨a, rfl⟩ | ⟨dt, rfl⟩ | ⟨_, memory, journal, paused, link, he, _⟩ := apply_cases b s m
  · exact hs.act a
  · exact hs.tick b dt
  · rw [he]
    exact ⟨hs.limit, hs.due⟩

theorem after (hs : s.InTime timeout) (b : Behaviour κ σ) (ms : List (Move κ σ)) :
    (s.after b ms).InTime timeout :=
  List.foldlRecOn ms (Session.apply b) hs fun _ hs m _ => hs.apply b m

end InTime

section
variable {b : Behaviour κ σ} {dt : Binary64} {s : Session κ σ} {h : History κ} {types : Registry}
  {id : RequestId}

theorem moment_of_none (hf : s.failure = none) :
    s.moment.phase = .rest ∧ s.moment.inbox = s.inbox := by
  simp [moment, isFailed, hf]

/-- Between two ticks no answer of the host is left to be dealt with. -/
theorem moment_responses (hh : Trail (.fresh types) h s.moment) :
    s.moment.desk.responses = [] := by
  by_contra hr
  exact (hh.ledger.responding hr).elim s.moment_idle.1 s.moment_idle.2

theorem inbox_timely (hh : Trail (.fresh types) h s.moment) (hf : s.failure = none)
    (id : RequestId) : .response id .timedOut ∉ (Turn.begin s).receiveAll.session.inbox := by
  intro ha
  rw [receiveAll_begin, Turn.receiveFrames_inbox, List.mem_append] at ha
  obtain ha | ha := ha
  · have hr : (id, Outcome.timedOut) ∈ s.moment.desk.responses := by
      rw [Moment.desk, (moment_of_none hf).2]
      exact List.mem_filterMap.mpr ⟨_, ha, rfl⟩
    rw [moment_responses hh] at hr
    cases hr
  · obtain ⟨m, hm⟩ := message_of_frame ha
    exact m.arrival_ne id hm

theorem deeds_timedOut (hh : Trail (.fresh types) h s.moment) (hf : s.failure = none)
    (hd : ¬ (Turn.begin s).receiveAll.session.link.toScene.isDry = true) :
    (s.deeds b (.tick dt)).timedOut = (s.dispatched b).lapsed.1.map (·.1) := by
  have heard : History.timedOut
      (.begin :: s.link.toScene.waiting.map .hear : History κ) = [] := by
    rw [History.timedOut, List.filterMap_cons, List.filterMap_map]
    exact List.filterMap_eq_nil_iff.mpr fun _ _ => rfl
  have told : History.timedOut [(s.worked b dt).telling] = [] := rfl
  rw [deeds_wet b dt hf hd, workDeeds]
  simp only [History.timedOut_append, heard, told, Turn.expireDeeds_timedOut,
    Turn.updateDeeds_timedOut, List.nil_append, List.append_nil,
    Turn.dispatchDeeds_timedOut b _ (inbox_timely hh hf)]
  rfl

theorem timedOut_cases (b : Behaviour κ σ) (dt : Binary64) (hh : Trail (.fresh types) h s.moment) :
    (s.deeds b (.tick dt)).timedOut = [] ∨ s.failure = none ∧
      (s.deeds b (.tick dt)).timedOut = (s.dispatched b).lapsed.1.map (·.1) := by
  by_cases hf : s.isFailed = true
  · rw [deeds, if_pos hf]
    exact .inl rfl
  · have hn := Option.not_isSome_iff_eq_none.mp hf
    by_cases hd : (Turn.begin s).receiveAll.session.link.toScene.isDry = true
    · rw [deeds, if_neg hf, stepDeeds_dry b dt hd, History.timedOut, List.filterMap_append,
        List.filterMap_cons, List.filterMap_map]
      exact .inl (List.append_eq_nil_iff.mpr
        ⟨List.filterMap_eq_nil_iff.mpr fun _ _ => rfl, rfl⟩)
    · exact .inr ⟨hn, deeds_timedOut hh hn hd⟩

/-- No query times out but one that has been out for as long as it may. -/
theorem out_of_time {timeout : Nat} (hh : Trail (.fresh types) h s.moment)
    (hi : s.InTime timeout) (hm : id ∈ (s.deeds b (.tick dt)).timedOut) :
    0 < timeout ∧ ∃ sent, (sent, id) ∈ h.carried ∧ sent + timeout = s.world.tick + 1 := by
  obtain he | ⟨hf, he⟩ := timedOut_cases b dt hh
  · rw [he] at hm
    cases hm
  · rw [he, mem_lapsed_iff, hi.limit] at hm
    obtain ⟨ht, p, sent, hg, hs, hx⟩ := hm
    have hp := (moment_of_none hf).1
    have hn : s.moment.next = s.world.tick + 1 := next_of_rest hp
    obtain hg | hl := (dispatched_trail b hf).stamped hg hs
    · refine ⟨ht, sent, (hh.sent_iff (by simp [hp]) hg).mp hs, ?_⟩
      have hd := hi.due ht hf hg hs
      omega
    -- It would have been sent in this very tick.
    · omega

/-- A query that has been out for as long as it may, and is not answered or taken back, times
out. -/
theorem times_out (hh : Trail (.fresh types) h s.moment) (hk : (s.tick b dt).1.isOk = true)
    (ht : 0 < s.config.queryTimeoutTicks) {sent : Nat} (hc : (sent, id) ∈ h.carried)
    (hn : sent + s.config.queryTimeoutTicks = s.world.tick + 1)
    (hq : (s.dispatched b).world.queries.isPending id = true) :
    id ∈ (s.deeds b (.tick dt)).timedOut := by
  obtain ⟨hf, hs⟩ := tick_isOk hk
  obtain ⟨p, hg⟩ := Option.isSome_iff_exists.mp hq
  have hd := hh.trans (dispatched_trail b hf)
  have hp : p.sent = some sent := by
    refine (hd.sent_iff (by simp [Turn.moment]) hg).mpr ?_
    rw [History.carried_append]
    exact List.mem_append_left _ hc
  rw [deeds_timedOut hh hf (not_dry hs)]
  exact (mem_lapsed_iff b s id).mpr ⟨ht, p, sent, hg, hp, by omega⟩

theorem answered_in_time (hh : Trail (.fresh types) h s.moment)
    (hk : (s.tick b dt).1.isOk = true) (hq : s.world.queries.isPending id = true) {o : Outcome}
    (hr : s.incoming? id = some o) :
    (id ∈ (s.deeds b (.tick dt)).cancelled ∨
        ∃ code, .answer id code o ∈ s.deeds b (.tick dt)) ∧
      id ∉ (s.deeds b (.tick dt)).timedOut := by
  obtain ⟨hf, hs⟩ := tick_isOk hk
  have hw : (Turn.begin s).receiveAll.world.queries = s.world.queries := by
    rw [receiveAll_begin, Turn.receiveFrames_world]
    rfl
  have ho : (h ++ .begin :: s.link.toScene.waiting.map .hear : History κ).response? id =
      some o := by
    have hn : h.response? id = none := by
      rw [hh.heard.first (by simp [Moment.desk, (moment_of_none hf).1]) hq, moment_responses hh]
      rfl
    rw [History.response?_append (hh.ledger.asked_of_pending hq), hn]
    exact hr
  obtain ⟨hn, hd⟩ := (hh.trans (intake_trail hf)).settled (Turn.dispatch_trail b _)
    (show (Turn.begin s).receiveAll.world.queries.isPending id = true from hw ▸ hq) ho
    (by simp [Turn.moment]) rfl
  have hi : (Turn.begin s).receiveAll.dispatchDeeds b ⊆ s.deeds b (.tick dt) := by
    rw [deeds_wet b dt hf (not_dry hs), workDeeds]
    exact fun x hx => by simp [hx]
  refine ⟨?_, fun hm => ?_⟩
  · obtain hc | ⟨code, ha⟩ := hd
    · obtain ⟨x, hx, he⟩ := List.mem_filterMap.mp hc
      exact .inl (List.mem_filterMap.mpr ⟨x, hi hx, he⟩)
    · exact .inr ⟨code, hi ha⟩
  · rw [deeds_timedOut hh hf (not_dry hs), mem_lapsed_iff] at hm
    obtain ⟨_, p, _, hg, _⟩ := hm
    exact Bool.false_ne_true (hn.symm.trans (Table.contains_of_get? hg))

end

/-- A query times out in the one tick that comes so many ticks after the tick of its batch, and does
so if it is still pending when the messages of that tick have been dealt with, unless the code of
another that times out takes it back. All ticks count that have begun, those of a paused session
too. What the host says in the last of them is in time. Without a limit no query times out. -/
theorem timeouts_exact (b : Behaviour κ σ) (config : Config) (types : Registry) (memory : σ)
    (ms : List (Move κ σ)) (dt : Binary64) :
    let s := start config ({ types } : World κ) memory
    let h := s.history b ms
    let u := s.after b ms
    let d := u.deeds b (.tick dt)
    let now := h.countP Happening.isBegin + 1
    let timeout := config.queryTimeoutTicks
    (∀ id ∈ d.timedOut, 0 < timeout ∧ ∃ sent, (sent, id) ∈ h.carried ∧ sent + timeout = now) ∧
    d.timedOut.Pairwise (· < ·) ∧
    ∀ report, (u.tick b dt).1 = .ok report →
      report.tick = now ∧
      (∀ sent id, 0 < timeout → (sent, id) ∈ h.carried → sent + timeout = now →
        (u.dispatched b).world.queries.isPending id = true →
        ((u.dispatched b).expireDeeds b).any (Happening.recalls id) = false →
        id ∈ d.timedOut) ∧
      ∀ id o, u.world.queries.isPending id = true → u.incoming? id = some o →
        (id ∈ d.cancelled ∨ ∃ code, .answer id code o ∈ d) ∧ id ∉ d.timedOut := by
  intro s h u d now timeout
  have hh : Trail (.fresh types) h u.moment := start_trail b config types memory ms
  have hi : u.InTime timeout := (InTime.start config types memory).after b ms
  have hn : now = u.world.tick + 1 := by
    have hb := hh.begun
    rw [show (fresh types : Moment κ).world.tick = 0 from rfl, Nat.zero_add] at hb
    exact congrArg (· + 1) hb.symm
  rw [hn, ← hi.limit]
  refine ⟨fun id hm => out_of_time hh (hi.limit ▸ hi) hm, ?_, fun report hk => ⟨?_, ?_, ?_⟩⟩
  · obtain he | ⟨_, he⟩ := timedOut_cases b dt hh
    · exact he ▸ .nil
    · exact he ▸ Queries.expire_ordered _ _ _
  · obtain ⟨hf, _⟩ := tick_flush hk
    rw [flush_report hf]
    exact congrArg Backdrop.tick (worked_backdrop b dt u)
  · exact fun sent id ht hc hs hq _ => times_out hh (isOk_of_tick hk) ht hc hs hq
  · exact fun id o hq hr => answered_in_time hh (isOk_of_tick hk) hq hr

/-- Two queries of one batch. The host answers the first in the last tick in which it may, and the
second times out. -/
theorem timeouts_exact_last :
    let s := start { queryTimeoutTicks := 2 } ({ types := ∅ } : World Unit) ()
    let ms : List (Move Unit Unit) := [.act (.ask "a" .null ()), .act (.ask "b" .null ()),
      .tick ⟨0⟩, .tick ⟨0⟩, .send "\x7b\"type\":\"queryResponse\",\"requestId\":\"q1\"\x7d"]
    let d := (s.after .idle ms).deeds .idle (.tick ⟨0⟩)
    ⟨"q2"⟩ ∈ d.timedOut ∧ ⟨"q1"⟩ ∉ d.timedOut ∧ ∃ code o, .answer ⟨"q1"⟩ code o ∈ d := by
  intro s ms d
  obtain ⟨_, _, hk⟩ := timeouts_exact .idle { queryTimeoutTicks := 2 } ∅ () ms ⟨0⟩
  obtain ⟨report, he⟩ := exists_report .idle ⟨0⟩ (s.after .idle ms) (by decide +kernel)
  obtain ⟨_, late, timely⟩ := hk report he
  have hr : ((s.after .idle ms).incoming? ⟨"q1"⟩).isSome = true := by decide +kernel
  obtain ⟨o, hr⟩ := Option.isSome_iff_exists.mp hr
  obtain ⟨ha, hn⟩ := timely ⟨"q1"⟩ o (by decide +kernel) hr
  obtain ⟨code, ha⟩ := ha.resolve_left (by decide +kernel)
  refine ⟨?_, hn, code, o, ha⟩
  exact late 1 ⟨"q2"⟩ (by decide) (by decide +kernel) (by decide +kernel) (by decide +kernel)
    (by decide +kernel)

end Session

end Diorama
