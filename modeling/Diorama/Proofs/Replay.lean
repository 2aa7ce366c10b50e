import Diorama.Proofs.Audience
import Diorama.Proofs.Deadline
import Diorama.Proofs.RunningOrder

/-!
The world at every point of a run, also while code is at work. It is replayed from what has happened
up to that point, and so are the members that can be called.
-/

namespace Diorama

variable {κ σ : Type}

/-- A world and the members that are called in it, with the code with which they joined. -/
structure Snapshot (κ : Type) where
  world : World κ := {}
  systems : Members (System κ) := []
  subscriptions : Members (Subscription κ) := []

namespace Snapshot

/-- What becomes of a snapshot. Queries run out of time after so many ticks. -/
def next (timeout : Nat) (n : Snapshot κ) : Happening κ → Snapshot κ
  | .act a _ => { n with world := (n.world.perform a).2 }
  | .begin => { n with world.tick := n.world.tick + 1 }
  | .gather =>
    let (subscriptions, world) := Dispatch.gather n.world n.subscriptions
    { n with world, subscriptions }
  -- A query that is out of time was taken out before its code is called.
  | .answer _ _ .timedOut => n
  | .answer id _ _ => { n with world.queries := (n.world.queries.resolve id).2 }
  | .lapse => { n with world.queries := (n.world.queries.expire n.world.tick timeout).2 }
  | .convene =>
    let (systems, roster) := n.world.systems.call Schedule.place n.systems
    { n with world.systems := roster, systems }
  | .flush .. => { n with
      world.changes := {}, world.queries := (n.world.queries.takeOutgoing n.world.tick).2 }
  | _ => n

theorem next_answer (timeout : Nat) (n : Snapshot κ) (id : RequestId) (code : κ) {o : Outcome}
    (ho : o ≠ .timedOut) : n.next timeout (.answer id code o) =
      { n with world.queries := (n.world.queries.resolve id).2 } := by
  cases o with
  | timedOut => exact absurd rfl ho
  | _ => rfl

/-- What can happen at a snapshot. Code learns what its action comes to there, and those are called
who are there. -/
def Admits (n : Snapshot κ) : Happening κ → Prop
  | .act a reply => reply = (n.world.perform a).1
  | .notify k _ => k ∈ n.subscriptions.map (·.1)
  | .update k => k ∈ n.systems.map (·.1)
  | _ => True

def Follows (timeout : Nat) (n : Snapshot κ) : History κ → Prop
  | [] => True
  | x :: h => n.Admits x ∧ Follows timeout (n.next timeout x) h

theorem follows_append {timeout : Nat} {n : Snapshot κ} {g h : History κ} :
    n.Follows timeout (g ++ h) ↔
      n.Follows timeout g ∧ (g.foldl (next timeout) n).Follows timeout h := by
  induction g generalizing n with
  | nil => exact iff_of_eq (true_and _).symm
  | cons x g ih => rw [List.cons_append, Follows, Follows, ih, and_assoc, List.foldl_cons]

structure Leads (timeout : Nat) (n : Snapshot κ) (h : History κ) (n' : Snapshot κ) : Prop where
  follows : n.Follows timeout h
  ends : h.foldl (next timeout) n = n'

namespace Leads

variable {timeout : Nat} {n n₁ n₂ : Snapshot κ} {g h : History κ} {x : Happening κ}

theorem nil : n.Leads timeout [] n := ⟨trivial, rfl⟩

theorem cons (hx : n.Admits x) (hh : (n.next timeout x).Leads timeout h n₂) :
    n.Leads timeout (x :: h) n₂ := ⟨⟨hx, hh.follows⟩, hh.ends⟩

theorem trans (hg : n.Leads timeout g n₁) (hh : n₁.Leads timeout h n₂) :
    n.Leads timeout (g ++ h) n₂ := by
  obtain ⟨hf, rfl⟩ := hg
  exact ⟨follows_append.mpr ⟨hf, hh.follows⟩, List.foldl_append.trans hh.ends⟩

end Leads

end Snapshot

namespace History

def Follows (timeout : Nat) (types : Registry) (h : History κ) : Prop :=
  Snapshot.Follows timeout { world := { types } } h

/-- The snapshot at the end of a history that begins with nothing but the types. -/
def replay (timeout : Nat) (types : Registry) (h : History κ) : Snapshot κ :=
  h.foldl (Snapshot.next timeout) { world := { types } }

variable {timeout : Nat} {types : Registry} {g h : History κ} {x : Happening κ}

theorem replay_concat :
    replay timeout types (h ++ [x]) = (h.replay timeout types).next timeout x := by
  rw [replay, List.foldl_append]
  rfl

theorem Follows.left (hh : Follows timeout types (g ++ h)) : g.Follows timeout types :=
  (Snapshot.follows_append.mp hh).1

theorem Follows.admits (hh : Follows timeout types (g ++ x :: h)) :
    (g.replay timeout types).Admits x := (Snapshot.follows_append.mp hh).2.1

theorem Follows.always {P : History κ → Prop} (hg : P g)
    (concat : ∀ (h : History κ) (x : Happening κ), Follows timeout types (h ++ [x]) → P h →
      P (h ++ [x]))
    (hh : Follows timeout types (g ++ h)) : P (g ++ h) := by
  induction h using List.reverseRecOn with
  | nil => exact (List.append_nil g).symm ▸ hg
  | append_singleton h x ih =>
    rw [← List.append_assoc] at hh ⊢
    exact concat _ x hh (ih hh.left)

end History

theorem Program.leads (timeout : Nat) (p : Program κ σ) (s : Stage κ σ) (n : Snapshot κ)
    (hw : n.world = s.world) :
    n.Leads timeout (p.deeds s.world) { n with world := (p.run s).stage.world } := by
  induction p generalizing s n with
  | finish self memory ending => exact hw ▸ .nil
  | act a next ih =>
    have hx : n.Admits (.act a (s.world.perform a).1) := by
      rw [Snapshot.Admits, hw]
    refine .cons hx ?_
    have hn := ih (s.world.perform a).1 { s with world := (s.world.perform a).2 }
      (n.next timeout (.act a (s.world.perform a).1)) (by rw [Snapshot.next, hw])
    exact hn
  | look next ih => exact ih s.world s n hw

theorem Stage.call_leads (timeout : Nat) (s : Stage κ σ) (b : Behaviour κ σ) (code : κ)
    (o : Occasion) (n : Snapshot κ) (hw : n.world = s.world) :
    n.Leads timeout (s.deeds b code o) { n with world := (s.call b code o).stage.world } :=
  Program.leads timeout _ s n hw

theorem Schedule.pass_leads (timeout : Nat) (b : Behaviour κ σ) (scene : String) (dt : Binary64)
    (ms : Members (System κ)) (s : Stage κ σ) (n : Snapshot κ) (hw : n.world = s.world)
    (hm : ∀ m ∈ ms, m.1 ∈ n.systems.map (·.1)) :
    n.Leads timeout (deeds b dt ms s)
      { n with world := (pass b scene dt ms s).stage.world } := by
  induction ms generalizing s n with
  | nil => exact hw ▸ .nil
  | cons x ms ih =>
    obtain ⟨h, y⟩ := x
    have rest := fun m hx => hm m (.tail _ hx)
    refine .cons (hm _ (.head _)) (.trans (Stage.call_leads timeout s b y.code _ n hw) ?_)
    simp only [pass]
    split
    · exact ih _ _ rfl rest
    · rename_i reason _
      have hr := ih ((s.call b y.code (.update dt)).stage.log (report scene y.name reason))
        { n with world := (s.call b y.code (.update dt)).stage.world } rfl rest
      rwa [Stage.log, deeds_journal] at hr

theorem Dispatch.deliver_leads (timeout : Nat) (b : Behaviour κ σ) (scene : String) (e : HostEvent)
    (ms : Members (Subscription κ)) (s : Stage κ σ) (n : Snapshot κ) (hw : n.world = s.world)
    (hm : ∀ m ∈ ms, m.1 ∈ n.subscriptions.map (·.1)) :
    n.Leads timeout (deeds b e ms s)
      { n with world := (deliver b scene e ms s).stage.world } := by
  induction ms generalizing s n with
  | nil => exact hw ▸ .nil
  | cons x ms ih =>
    obtain ⟨h, y⟩ := x
    have rest := fun m hx => hm m (.tail _ hx)
    simp only [deeds, deliver]
    by_cases hs : y.wants e = true
    · rw [if_pos hs, if_pos hs]
      refine .cons (hm _ (.head _)) (.trans (Stage.call_leads timeout s b y.code _ n hw) ?_)
      split
      · exact ih _ _ rfl rest
      · rename_i reason _
        have hr := ih ((s.call b y.code (.event e)).stage.log (report scene e.name reason))
          { n with world := (s.call b y.code (.event e)).stage.world } rfl rest
        rwa [Stage.log, deeds_journal] at hr
    · rw [if_neg hs, if_neg hs]
      exact ih s n hw rest

theorem Members.handles_of_view {α β : Type} (view : Handle α × α → Handle α × β)
    (hv : ∀ m, (view m).1 = m.1) {ms ms' : Members α} (h : ms.map view = ms'.map view) :
    ms.map (·.1) = ms'.map (·.1) := by
  have hm := congrArg (List.map Prod.fst) h
  simpa only [List.map_map, Function.comp_def, hv] using hm

theorem Roster.call_map {α β : Type} {place : Handle α × α → Members α → Members α}
    (view : Handle α × α → Handle α × β) (hv : ∀ m, (view m).1 = m.1)
    (hp : ∀ (m : Handle α × α) (ms ms' : Members α), ms.map view = ms'.map view →
      (place m ms).map view = (place m ms').map view)
    (r : Roster α) {ms ms' : Members α} (h : ms.map view = ms'.map view) :
    (r.call place ms).1.map view = (r.call place ms').1.map view := by
  have hf (k : Handle α) (ms : Members α) :
      (ms.filter (·.1 ≠ k)).map view = (ms.map view).filter (·.1 ≠ k) := by
    rw [List.filter_map]
    simp only [Function.comp_def, hv]
  rw [call, call]
  generalize r.orders = orders
  induction orders generalizing ms ms' with
  | nil => exact h
  | cons order orders ih =>
    refine ih ?_
    cases order with
    | join k a => exact hp (k, a) ms ms' h
    | leave k => rw [Order.apply, Order.apply, hf, hf, h]

theorem Schedule.place_rank (m : Handle (System κ) × System κ) (ms ms' : Members (System κ))
    (h : ms.map System.rank = ms'.map System.rank) :
    (place m ms).map System.rank = (place m ms').map System.rank := by
  induction ms generalizing ms' with
  | nil =>
    obtain rfl := List.map_eq_nil_iff.mp h.symm
    rfl
  | cons x ms ih =>
    cases ms' with
    | nil => cases h
    | cons y ms' =>
      rw [List.map_cons, List.map_cons] at h
      obtain ⟨hx, h⟩ := List.cons.inj h
      have hp : x.2.priority = y.2.priority := congrArg Prod.snd hx
      rw [place_cons, place_cons, hp]
      split
      · rw [List.map_cons, List.map_cons, hx, ih ms' h]
      · rw [List.map_cons, List.map_cons, List.map_cons, List.map_cons, hx, h]

theorem Schedule.call_rank (r : Roster (System κ)) {ms ms' : Members (System κ)}
    (h : ms.map System.rank = ms'.map System.rank) :
    (r.call place ms).1.map System.rank = (r.call place ms').1.map System.rank :=
  r.call_map System.rank (fun _ => rfl) place_rank h

theorem Dispatch.call_post (r : Roster (Subscription κ)) {ms ms' : Members (Subscription κ)}
    (h : Fits ms ms') : Fits (r.call place ms).1 (r.call place ms').1 :=
  r.call_map Subscription.post (fun _ => rfl)
    (fun m ms ms' h => by rw [place, place, List.map_append, List.map_append, h]) h

theorem Dispatch.gather_post (w : World κ) {ms ms' : Members (Subscription κ)} (h : Fits ms ms') :
    Fits (gather w ms).1 (gather w ms').1 ∧ (gather w ms).2 = (gather w ms').2 := by
  have hc := call_post w.subscriptions h
  have hp := congrArg (List.map fun x => x.1) (hc.filter fun x => !x.2.2.all w.isAlive)
  rw [List.map_map, List.map_map] at hp
  refine ⟨?_, ?_⟩
  · rw [(gather_eq w ms).1, (gather_eq w ms').1]
    exact hc.filter fun x => x.2.2.all w.isAlive
  · simp only [gather, List.partition_eq_filter_filter, Function.comp_def]
    exact congrArg (fun hs => { w with
      subscriptions := ((w.subscriptions.call place ms).2.forget hs) }) hp

/-- A snapshot of a session, but for what has become of the code of its members. -/
structure Session.Shown (s : Session κ σ) (n : Snapshot κ) : Prop where
  world : n.world = s.world
  systems : n.systems.map System.rank = s.systems.map System.rank
  subscriptions : Dispatch.Fits n.subscriptions s.subscriptions

def Session.Leads (timeout : Nat) (s : Session κ σ) (h : History κ) (s' : Session κ σ) : Prop :=
  ∀ n, s.Shown n → ∃ n', n.Leads timeout h n' ∧ s'.Shown n'

namespace Session

variable {timeout : Nat} {s s₁ s₂ : Session κ σ} {g h : History κ} {x : Happening κ}
  {n : Snapshot κ}

namespace Shown

theorem change (hn : s.Shown n) {world : World κ} (hw : world = s₁.world)
    (hs : s₁.systems.map System.rank = s.systems.map System.rank)
    (hp : Dispatch.Fits s₁.subscriptions s.subscriptions) : s₁.Shown { n with world } :=
  ⟨hw, hn.systems.trans hs.symm, hn.subscriptions.trans hp.symm⟩

theorem change_members (hn : s.Shown n) {world : World κ} (hw : world = s₁.world)
    (hm : s₁.members = s.members) : s₁.Shown { n with world } :=
  hn.change hw (congrArg (·.1.map System.rank) hm)
    (congrArg (List.map Subscription.post) (congrArg Prod.snd hm))

theorem change_cast {t t₁ : Turn κ σ} (hn : t.session.Shown n) {world : World κ}
    (hw : world = t₁.world) (hc : t₁.cast = t.cast) : t₁.session.Shown { n with world } :=
  hn.change hw (congrArg (·.systems.map System.rank) hc) (congrArg Cast.subscriptions hc)

end Shown

namespace Leads

theorem nil (hw : s₁.world = s.world) (hm : s₁.members = s.members) : s.Leads timeout [] s₁ :=
  fun n hn => ⟨n, .nil, hn.change_members (hn.world.trans hw.symm) hm⟩

theorem cons (hx : ∀ n, s.Shown n → n.Admits x ∧ s₁.Shown (n.next timeout x))
    (hh : s₁.Leads timeout h s₂) : s.Leads timeout (x :: h) s₂ := fun n hn => by
  obtain ⟨ha, hs⟩ := hx n hn
  obtain ⟨n', hl, hn'⟩ := hh _ hs
  exact ⟨n', .cons ha hl, hn'⟩

theorem single (hx : ∀ n, s.Shown n → n.Admits x ∧ s₁.Shown (n.next timeout x)) :
    s.Leads timeout [x] s₁ := .cons hx (.nil rfl rfl)

theorem trans (hg : s.Leads timeout g s₁) (hh : s₁.Leads timeout h s₂) :
    s.Leads timeout (g ++ h) s₂ := fun n hn => by
  obtain ⟨n₁, hn₁, hs₁⟩ := hg n hn
  obtain ⟨n₂, hn₂, hs₂⟩ := hh n₁ hs₁
  exact ⟨n₂, hn₁.trans hn₂, hs₂⟩

end Leads

end Session

namespace Turn

variable {timeout : Nat} (b : Behaviour κ σ) (t : Turn κ σ)

theorem complete_leads (timeout : Nat) (id : RequestId) (code : κ) (o : Outcome) :
    t.session.Leads timeout (t.session.stage.deeds b code (.outcome o))
      (t.complete b id code o).session := fun n hn => by
  refine ⟨_, Stage.call_leads timeout t.session.stage b code (.outcome o) n hn.world, ?_⟩
  exact hn.change_cast (complete_world b t id code o).symm (complete_cast b t id code o)

theorem handle_leads {a : Arrival} (ha : ∀ id, a ≠ .response id .timedOut) :
    t.session.Leads timeout (t.handleDeeds b a) (t.handle b a).session := by
  cases a with
  | event e =>
    simp only [handle, handleDeeds]
    cases e.entity.filter fun x => !t.world.isAlive x with
    | some x => exact .single fun n hn => ⟨trivial, hn.change_members hn.world rfl⟩
    | none =>
      intro n hn
      have hk := Members.handles_of_view Subscription.post (fun _ => rfl) hn.subscriptions
      have hd := Dispatch.deliver_leads timeout b t.session.config.sceneId e
        t.session.subscriptions t.session.stage n hn.world fun m hm => hk ▸ List.mem_map_of_mem hm
      exact ⟨_, .cons trivial hd, hn.change rfl rfl (Dispatch.deliver_post b _ e _ _)⟩
  | response id o =>
    simp only [handle, handleDeeds]
    cases hq : t.world.queries.pending.get? id with
    | none =>
      simp only [Queries.resolve, hq, Option.map_none]
      exact .single fun n hn => ⟨trivial, hn.change_members hn.world rfl⟩
    | some p =>
      simp only [Queries.resolve, hq, Option.map_some]
      let world : World κ := { t.world with queries := (t.world.queries.resolve id).2 }
      refine .cons (fun n hn => ⟨trivial, ?_⟩)
        (complete_leads b { t with session := t.session.setWorld world } timeout id p.callback o)
      have hw : n.world = t.world := hn.world
      rw [Snapshot.next_answer timeout n id p.callback fun ho => ha id (by rw [ho]), hw]
      exact hn.change_members rfl rfl

theorem timeOut_leads (q : RequestId × κ) :
    t.session.Leads timeout (t.timeOutDeeds b q) (t.timeOut b q).session := by
  refine .cons (fun _ hn => ⟨trivial, ?_⟩) (complete_leads b
    (t.log (.say .debug Target.session s!"Query '{q.1.text}' timed out")) timeout q.1 q.2 .timedOut)
  exact hn.change_members hn.world rfl

theorem along_leads {α : Type} {deal : Turn κ σ → α → Turn κ σ} {deeds : Turn κ σ → α → History κ}
    (as : List α)
    (hd : ∀ (t : Turn κ σ), ∀ a ∈ as, t.session.Leads timeout (deeds t a) (deal t a).session) :
    t.session.Leads timeout (t.along deal deeds as) (as.foldl deal t).session := by
  induction as generalizing t with
  | nil => exact .nil rfl rfl
  | cons a as ih => exact (hd t a (.head _)).trans (ih (deal t a) fun t a ha => hd t a (.tail _ ha))

theorem dispatch_leads (hi : ∀ id, .response id .timedOut ∉ t.session.inbox) :
    t.session.Leads timeout (t.dispatchDeeds b) (t.dispatch b).session := by
  refine .cons (fun n hn => ⟨trivial, ?_⟩)
    (along_leads t.gathered t.session.inbox
      fun t a ha => handle_leads b t fun id he => hi id (he ▸ ha))
  have hw : n.world = t.world := hn.world
  obtain ⟨hm, hg⟩ := Dispatch.gather_post n.world hn.subscriptions
  rw [hw] at hm hg
  rw [Snapshot.next, hw]
  exact ⟨hg, hn.systems, hm⟩

theorem expire_leads (ht : t.session.config.queryTimeoutTicks = timeout) :
    t.session.Leads timeout (t.expireDeeds b) (t.expire b).session := by
  refine .cons (fun n hn => ⟨trivial, ?_⟩)
    (along_leads t.lapsed.2 t.lapsed.1 fun t q _ => timeOut_leads b t q)
  have hw : n.world = t.world := hn.world
  rw [Snapshot.next, hw, ← ht]
  exact hn.change_members rfl rfl

theorem update_leads (dt : Binary64) :
    t.session.Leads timeout (t.updateDeeds b dt) (t.update b dt).session := by
  cases hp : t.session.paused with
  | true =>
    obtain ⟨hd, hu⟩ := update_paused b dt hp
    rw [hd, hu]
    exact .nil rfl rfl
  | false =>
    intro n hn
    have hw : n.world = t.world := hn.world
    have hr := Schedule.call_rank t.world.systems hn.systems
    have hx : n.next timeout .convene = { n with
        world := t.convened.2.world
        systems := (t.world.systems.call Schedule.place n.systems).1 } := by
      rw [Snapshot.next, hw]
      rfl
    have hk := Members.handles_of_view System.rank (fun _ => rfl) hr
    have hm : ∀ m ∈ t.convened.1, m.1 ∈ (n.next timeout .convene).systems.map (·.1) := by
      intro m hm
      rw [hx]
      exact hk ▸ List.mem_map_of_mem hm
    have hl := Schedule.pass_leads timeout b t.session.config.sceneId dt t.convened.1 t.convened.2
      (n.next timeout .convene) (by rw [hx]) hm
    rw [updateDeeds_running b dt hp]
    obtain ⟨hs, hv, _⟩ := update_running b dt hp
    refine ⟨_, .cons trivial hl, hv.symm, ?_, ?_⟩
    · rw [hx, hs]
      exact hr.trans (Schedule.pass_rank b _ dt _ _).symm
    · rw [hx, Session.update_subscriptions]
      exact hn.subscriptions

theorem telling_leads (hn : t.report.tick = t.world.tick) :
    t.session.Leads timeout [t.telling] t.flush.2 := by
  refine .single fun n hs => ⟨trivial, ?_⟩
  have hw : n.world = t.world := hs.world
  have hx : n.next timeout t.telling = { n with world := t.flush.2.world } := by
    rw [telling, Snapshot.next, flush_world, hn, hw]
  rw [hx]
  exact hs.change_members rfl (Session.flush_members t)

theorem receiveFrames_leads (frames : List String) :
    t.session.Leads timeout (frames.map .hear) (frames.foldl receive t).session := by
  induction frames generalizing t with
  | nil => exact .nil rfl rfl
  | cons frame frames ih =>
    refine .cons (fun n hn => ⟨trivial, ?_⟩) (ih (t.receive frame))
    exact hn.change_cast (hn.world.trans (receive_world t frame).symm) (receive_cast t frame)

end Turn

namespace Session

variable {timeout : Nat} (b : Behaviour κ σ) {s : Session κ σ} {h : History κ} {types : Registry}

theorem intake_leads (s : Session κ σ) :
    s.Leads timeout s.intake (Turn.begin s).receiveAll.session := by
  refine .cons (fun n hn => ⟨trivial, ?_⟩)
    (Turn.receiveFrames_leads s.opened s.link.toScene.waiting)
  rw [Snapshot.next, hn.world]
  exact hn.change_members rfl rfl

theorem work_leads (dt : Binary64) (ht : s.config.queryTimeoutTicks = timeout)
    (hi : ∀ id, .response id .timedOut ∉ (Turn.begin s).receiveAll.session.inbox) :
    (Turn.begin s).receiveAll.session.Leads timeout (s.workDeeds b dt)
      (s.worked b dt).session := by
  have hc : (s.dispatched b).session.config.queryTimeoutTicks = timeout :=
    (congrArg (·.config.queryTimeoutTicks) (dispatched_backdrop b s)).trans ht
  exact ((Turn.dispatch_leads b _ hi).trans (Turn.expire_leads b _ hc)).trans
    (Turn.update_leads b _ dt)

theorem tick_leads (dt : Binary64) (hh : Moment.Trail (.fresh types) h s.moment)
    (hf : s.failure = none) (ht : s.config.queryTimeoutTicks = timeout) :
    s.Leads timeout (s.stepDeeds b dt) (s.tick b dt).2 := by
  have hw : (s.tick b dt).2.world = (s.step b dt).2.world :=
    congrArg Moment.world (tick_moment b dt hf)
  have hm := tick_members b dt hf
  suffices hs : s.Leads timeout (s.stepDeeds b dt) (s.step b dt).2 by
    rw [← List.append_nil (s.stepDeeds b dt)]
    exact hs.trans (.nil hw hm)
  by_cases hd : (Turn.begin s).receiveAll.session.link.toScene.isDry = true
  · rw [stepDeeds_dry b dt hd, step_dry b dt hd]
    exact (intake_leads s).trans (.single fun n hn => ⟨trivial, hn⟩)
  · rw [stepDeeds_wet b dt hd, step_wet b dt hd]
    have hn : (s.worked b dt).report.tick = (s.worked b dt).world.tick := by
      have hb := worked_backdrop b dt s
      exact (congrArg Backdrop.tick hb).trans (congrArg Backdrop.now hb).symm
    exact ((intake_leads s).trans (work_leads b dt ht (inbox_timely hh hf))).trans
      (Turn.telling_leads _ hn)

theorem apply_leads (hh : Moment.Trail (.fresh types) h s.moment)
    (ht : s.config.queryTimeoutTicks = timeout) (m : Move κ σ) :
    s.Leads timeout (s.deeds b m) (s.apply b m) := by
  obtain ⟨a, rfl⟩ | ⟨dt, rfl⟩ | ⟨hd, memory, journal, paused, link, he, _⟩ := apply_cases b s m
  · refine .single fun n hn => ?_
    rw [Snapshot.Admits, Snapshot.next, hn.world]
    exact ⟨rfl, hn.change_members rfl rfl⟩
  · by_cases hf : s.isFailed = true
    · rw [deeds, if_pos hf, apply, tick_failed hf]
      exact .nil rfl rfl
    · rw [deeds, if_neg hf]
      exact tick_leads b dt hh (Option.not_isSome_iff_eq_none.mp hf) ht
  · rw [hd, he]
    exact .nil rfl rfl

theorem apply_config (m : Move κ σ) : (s.apply b m).config = s.config := by
  obtain ⟨a, rfl⟩ | ⟨dt, rfl⟩ | ⟨_, memory, journal, paused, link, he, _⟩ := apply_cases b s m
  · rfl
  · exact tick_config b dt s
  · rw [he]

theorem after_leads (hh : Moment.Trail (.fresh types) h s.moment)
    (ht : s.config.queryTimeoutTicks = timeout) (ms : List (Move κ σ)) :
    s.Leads timeout (s.history b ms) (s.after b ms) := by
  induction ms generalizing s h with
  | nil => exact .nil rfl rfl
  | cons m ms ih =>
    exact (apply_leads b hh ht m).trans
      (ih (hh.trans (apply_trail b s m)) ((congrArg _ (apply_config b m)).trans ht))

/-- What happens in a run can happen as it stands, and the snapshot that is replayed from it is that
of the session. -/
theorem run_replayed (config : Config) (types : Registry) (memory : σ)
    (moves : List (Move κ σ)) :
    let s := start config ({ types } : World κ) memory
    (s.history b moves).Follows config.queryTimeoutTicks types ∧
      (s.after b moves).Shown ((s.history b moves).replay config.queryTimeoutTicks types) := by
  intro s
  obtain ⟨n, ⟨hf, rfl⟩, hn⟩ := after_leads b (s := s) .nil rfl moves { world := { types } }
    ⟨rfl, rfl, rfl⟩
  exact ⟨hf, hn⟩

end Session

end Diorama
