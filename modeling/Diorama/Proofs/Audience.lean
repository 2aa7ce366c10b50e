import Diorama.Proofs.Enrolment
import Diorama.Proofs.Fates
import Diorama.Proofs.Living
import Mathlib.Data.List.Induction

namespace Diorama

open Moment

variable {κ σ : Type}

def Behaviour.destroying : Behaviour (Option Entity) σ
  | some e, _, memory => .act (.destroy e) fun _ => .finish none memory .returned
  | none, _, memory => .finish none memory .returned

namespace Happening

def delivered? : Happening κ → Option HostEvent
  | .deliver e => some e
  | _ => none

def notified? : Happening κ → Option (Handle (Subscription κ) × HostEvent)
  | .notify h e => some (h, e)
  | _ => none

def isTurn : Happening κ → Bool
  | .deliver _ | .drop (.deadEntity ..) => true
  | _ => false

def bound? : Happening κ → Option Entity
  | .act (.subscribe s) _ => s.target
  | _ => none

def isQuiet (x : Happening κ) : Bool :=
  x.delivered?.isNone && x.notified?.isNone && !x.isTurn

end Happening

/-- What can be at the turn of an event: it is delivered, or dropped for an entity that is gone. -/
inductive HostEvent.Turn (e : HostEvent) : Happening κ → Prop
  | delivered : Turn e (.deliver e)
  | dropped {x : Entity} (hx : x ∈ e.entity) : Turn e (.drop (.deadEntity e.name x))

def Arrival.event? : Arrival → Option HostEvent
  | event e => some e
  | response .. => none

namespace History

def delivered (h : History κ) : List HostEvent := h.filterMap Happening.delivered?

def notified (h : History κ) : List (Handle (Subscription κ) × HostEvent) :=
  h.filterMap Happening.notified?

theorem delivered_append (h h' : History κ) : delivered (h ++ h') = h.delivered ++ h'.delivered :=
  List.filterMap_append

theorem notified_append (h h' : History κ) : notified (h ++ h') = h.notified ++ h'.notified :=
  List.filterMap_append

theorem quiet {h : History κ} (hq : ∀ x ∈ h, x.isQuiet = true) :
    h.delivered = [] ∧ h.notified = [] ∧ h.filter Happening.isTurn = [] := by
  simp only [Happening.isQuiet, Bool.and_eq_true, Option.isNone_iff_eq_none,
    Bool.not_eq_true'] at hq
  refine ⟨List.filterMap_eq_nil_iff.mpr fun x hx => (hq x hx).1.1,
    List.filterMap_eq_nil_iff.mpr fun x hx => (hq x hx).1.2, List.filter_eq_nil_iff.mpr ?_⟩
  intro x hx
  simp [(hq x hx).2]

/-- The entity to which a subscription is bound lives. -/
def isBound (h : History κ) (s : Subscription κ) : Bool := s.target.all h.isLiving

def subscribers (h : History κ) : Members (Subscription κ) :=
  (h.filterMap Happening.subscriptionOrder?).foldl Order.enlist []

/-- What becomes of the subscriptions. When they are gathered, those go whose entity is gone. -/
def seat (h : History κ) (ms : Members (Subscription κ)) :
    Happening κ → Members (Subscription κ)
  | .gather => ms.filter fun m => h.isBound m.2
  | x => x.subscriptionOrder?.toList.foldl Order.enlist ms

def seatAll (g : History κ) (ms : Members (Subscription κ)) :
    History κ → Members (Subscription κ)
  | [] => ms
  | x :: h => seatAll (g ++ [x]) (g.seat ms x) h

/-- The subscriptions that have been made and not been revoked or removed. -/
def audience (h : History κ) : Members (Subscription κ) := seatAll [] [] h

theorem seatAll_append (g : History κ) (ms : Members (Subscription κ)) (h h' : History κ) :
    seatAll g ms (h ++ h') = seatAll (g ++ h) (seatAll g ms h) h' := by
  induction h generalizing g ms with
  | nil => rw [List.nil_append, List.append_nil, seatAll]
  | cons x h ih => rw [List.cons_append, seatAll, seatAll, ih, List.append_assoc]; rfl

theorem audience_append (h h' : History κ) : audience (h ++ h') = seatAll h h.audience h' :=
  seatAll_append ..

theorem audience_concat (h : History κ) (x : Happening κ) :
    audience (h ++ [x]) = h.seat h.audience x := audience_append h [x]

theorem seat_order (h : History κ) (ms : Members (Subscription κ)) {x : Happening κ}
    (hx : x.isGather = false) :
    h.seat ms x = x.subscriptionOrder?.toList.foldl Order.enlist ms := by
  cases x with
  | gather => cases hx
  | _ => rfl

theorem seatAll_orders (g : History κ) (ms : Members (Subscription κ)) {h : History κ}
    (hg : ∀ x ∈ h, x.isGather = false) :
    seatAll g ms h = (h.filterMap Happening.subscriptionOrder?).foldl Order.enlist ms := by
  induction h generalizing g ms with
  | nil => rfl
  | cons x h ih =>
    rw [seatAll, ih _ _ fun y hy => hg y (.tail _ hy), seat_order _ _ (hg x (.head _)),
      List.filterMap_cons]
    cases x.subscriptionOrder? <;> rfl

theorem subscribers_concat (h : History κ) (x : Happening κ) :
    subscribers (h ++ [x]) = x.subscriptionOrder?.toList.foldl Order.enlist h.subscribers := by
  rw [subscribers, filterMap_concat, List.foldl_append]
  rfl

/-- In a history that follows on another, no subscription is bound to an entity before there is that
entity. -/
def isPromptAfter (g : History κ) : History κ → Bool
  | [] => true
  | x :: h => x.bound?.all (· ∈ g.created) && isPromptAfter (g ++ [x]) h

def isPrompt (h : History κ) : Bool := isPromptAfter [] h

theorem isPromptAfter_concat (g h : History κ) (x : Happening κ) :
    isPromptAfter g (h ++ [x]) =
      (isPromptAfter g h && x.bound?.all (· ∈ (g ++ h : History κ).created)) := by
  induction h generalizing g with
  | nil => simp [isPromptAfter]
  | cons y h ih =>
    simp only [List.cons_append, isPromptAfter, ih, Bool.and_assoc, List.append_assoc,
      List.nil_append]

theorem isPrompt_concat {h : History κ} {x : Happening κ} :
    isPrompt (h ++ [x]) = true ↔ h.isPrompt = true ∧ ∀ e ∈ x.bound?, e ∈ h.created := by
  rw [isPrompt, isPromptAfter_concat, Bool.and_eq_true, Option.all_eq_true]
  simp [isPrompt]

theorem isLiving_concat {h : History κ} {x : Happening κ} {e : Entity} (he : e ∈ h.created) :
    isLiving (h ++ [x]) e = (h.isLiving e && decide (x.destroyed? ≠ some e)) := by
  have hd : (h ++ [x] : History κ).destroyed = h.destroyed ++ x.destroyed?.toList :=
    filterMap_concat ..
  have hc : e ∈ (h ++ [x] : History κ).created := by
    rw [created, filterMap_concat]
    exact List.mem_append_left _ he
  simp [isLiving, he, hc, hd]

theorem enlist_sublist {ms ms' : Members (Subscription κ)} (hs : ms.Sublist ms')
    (order? : Option (Order (Subscription κ))) :
    (order?.toList.foldl Order.enlist ms).Sublist (order?.toList.foldl Order.enlist ms') := by
  cases order? with
  | none => exact hs
  | some order =>
    cases order with
    | join handle s => exact hs.append (.refl _)
    | leave handle => exact hs.filter _

theorem audience_sublist (h : History κ) : h.audience.Sublist h.subscribers := by
  induction h using List.reverseRecOn with
  | nil => exact .refl _
  | append_singleton h x ih =>
    rw [audience_concat, subscribers_concat]
    cases x with
    | gather => exact List.filter_sublist.trans ih
    | _ => exact enlist_sublist ih _

theorem target_created {h : History κ} (hp : h.isPrompt = true) :
    ∀ m ∈ h.subscribers, ∀ e ∈ m.2.target, e ∈ h.created := by
  induction h using List.reverseRecOn with
  | nil => exact fun m hm => absurd hm List.not_mem_nil
  | append_singleton h x ih =>
    obtain ⟨hp, hx⟩ := isPrompt_concat.mp hp
    intro m hm e he
    rw [created, List.filterMap_append]
    refine List.mem_append_left _ ?_
    rw [subscribers_concat] at hm
    obtain ⟨hm, _⟩ | hj := Order.mem_enlist_iff.mp hm
    · exact ih hp m hm e he
    · obtain rfl := Happening.subscriptionOrder?_eq_join.mp hj
      exact hx e he

theorem filter_bound_concat {h : History κ} {x : Happening κ} {ms : Members (Subscription κ)}
    (hm : ∀ m ∈ ms, ∀ e ∈ m.2.target, e ∈ h.created) :
    (ms.filter fun m => isBound (h ++ [x]) m.2) = (ms.filter fun m => h.isBound m.2).filter
      fun m => m.2.target.all fun e => x.destroyed? ≠ some e := by
  rw [List.filter_filter]
  refine List.filter_congr fun m hl => ?_
  rw [isBound, isBound]
  cases ht : m.2.target with
  | none => rfl
  | some e => simp [isLiving_concat (hm m hl e ht), Bool.and_comm]

theorem filter_enlist {ms ms' : Members (Subscription κ)}
    {p : Handle (Subscription κ) × Subscription κ → Bool} (hs : ms.filter p = ms'.filter p)
    (order? : Option (Order (Subscription κ))) :
    (order?.toList.foldl Order.enlist ms).filter p =
      (order?.toList.foldl Order.enlist ms').filter p := by
  cases order? with
  | none => exact hs
  | some order =>
    cases order with
    | join handle s =>
      change (ms ++ [_]).filter p = (ms' ++ [_]).filter p
      rw [List.filter_append, List.filter_append, hs]
    | leave handle =>
      change (ms.filter _).filter p = (ms'.filter _).filter p
      rw [List.filter_comm, hs, List.filter_comm]

/-- If no subscription comes before its entity, it makes no difference when those are removed whose
entity is gone. -/
theorem audience_of_prompt {h : History κ} (hp : h.isPrompt = true) :
    h.audience.filter (fun m => h.isBound m.2) = h.subscribers.filter fun m => h.isBound m.2 := by
  induction h using List.reverseRecOn with
  | nil => rfl
  | append_singleton h x ih =>
    have hp := (isPrompt_concat.mp hp).1
    have hc := target_created hp
    have ha := (audience_sublist h).subset
    have same : (audience h).filter (fun m => isBound (h ++ [x]) m.2) =
        (subscribers h).filter fun m => isBound (h ++ [x]) m.2 := by
      rw [filter_bound_concat fun m hm => hc m (ha hm), ih hp, filter_bound_concat hc]
    rw [audience_concat, subscribers_concat]
    cases x with
    | gather =>
      refine .trans ?_ same
      rw [seat, filter_bound_concat fun m hm => hc m (ha (List.mem_filter.mp hm).1),
        filter_bound_concat fun m hm => hc m (ha hm)]
      simp only [List.filter_filter, Bool.and_self]
    | _ => exact filter_enlist same _

end History

namespace Dispatch

def Fits (ms list : Members (Subscription κ)) : Prop :=
  ms.map Subscription.post = list.map Subscription.post

def calls (ms : Members (Subscription κ)) (e : HostEvent) :
    List (Handle (Subscription κ) × HostEvent) :=
  (ms.filter (·.2.wants e)).map fun m => (m.1, e)

namespace Fits

variable {ms list : Members (Subscription κ)}

theorem filter (hf : Fits ms list) (p : Handle (Subscription κ) × String × Option Entity → Bool) :
    Fits (ms.filter fun m => p (Subscription.post m))
      (list.filter fun m => p (Subscription.post m)) := by
  have hp (ms : Members (Subscription κ)) :
      (ms.filter fun m => p (Subscription.post m)).map Subscription.post =
        (ms.map Subscription.post).filter p := List.filter_map.symm
  rw [Fits, hp, hp, hf]

theorem calls_eq (hf : Fits ms list) (e : HostEvent) : calls ms e = calls list e := by
  have hp (ms : Members (Subscription κ)) : calls ms e =
      ((ms.filter (·.2.wants e)).map Subscription.post).map fun x => (x.1, e) := by
    rw [calls, List.map_map]
    rfl
  have hw : Fits (ms.filter (·.2.wants e)) (list.filter (·.2.wants e)) :=
    hf.filter fun x => x.2.1 = e.name && x.2.2.all (e.entity = some ·)
  rw [hp, hp, hw]

end Fits

theorem arrangement : Arrangement place (Fits (κ := κ)) where
  join {ms list m} hf _ := by
    rw [Fits, place, List.map_append, List.map_append, hf]
  leave h hf := hf.filter (·.1 ≠ h)

theorem gather_eq (w : World κ) (ms : Members (Subscription κ)) :
    (gather w ms).1 = (w.subscriptions.call place ms).1.filter (·.2.isBound w) ∧
      (gather w ms).2.subscriptions = (w.subscriptions.call place ms).2.forget
        (((w.subscriptions.call place ms).1.filter fun m => !m.2.isBound w).map (·.1)) := by
  constructor <;> simp only [gather, List.partition_eq_filter_filter, Function.comp_def]

theorem gather_enrolled {w : World κ} {ms list : Members (Subscription κ)}
    (he : Enrolled place Fits w.subscriptions ms list) :
    Fits (gather w ms).1 (list.filter (·.2.isBound w)) ∧
      ∀ ms', Fits ms' (list.filter (·.2.isBound w)) →
        Enrolled place Fits (gather w ms).2.subscriptions ms' (list.filter (·.2.isBound w)) := by
  obtain ⟨hk, hr⟩ := gather_eq w ms
  rw [hk, hr]
  refine ⟨he.fits.filter fun x => x.2.2.all w.isAlive, fun ms' hf =>
    ⟨hf, fun {m} hm => ?_, fun hm => he.issued (List.mem_filter.mp hm).1, he.ordered.filter _⟩⟩
  obtain ⟨hm, hb⟩ := List.mem_filter.mp hm
  refine List.mem_filter.mpr ⟨he.valid hm, decide_eq_true fun hp => ?_⟩
  -- No two subscriptions have one handle, so the one that goes is not this one.
  obtain ⟨l, hl, hn⟩ := List.mem_map.mp hp
  obtain ⟨hl, hd⟩ := List.mem_filter.mp hl
  obtain ⟨l', hl', hs⟩ := List.mem_map.mp (he.fits ▸ List.mem_map_of_mem hl)
  have hu : l' = m := Enrolled.eq_of_handle he.ordered hl' hm ((congrArg (·.1) hs).trans hn)
  have ht : m.2.target = l.2.target := hu ▸ congrArg (·.2.2) hs
  rw [Subscription.isBound, ht] at hb
  simp [Subscription.isBound, hb] at hd

end Dispatch

namespace Moment

variable {m m' : Moment κ} {g h : History κ} {types : Registry}

theorem Trail.isBound_eq (hh : Trail (.fresh types) h m) (s : Subscription κ) :
    s.isBound m.world = h.isBound s := congrArg (s.target.all ·) (funext hh.isAlive_eq)

theorem Trail.seated (hh : Trail m h m') (hg : ∀ x ∈ h, x.isGather = false)
    {ms list : Members (Subscription κ)}
    (he : Enrolled Dispatch.place Dispatch.Fits m.world.subscriptions ms list) (g : History κ) :
    Enrolled Dispatch.place Dispatch.Fits m'.world.subscriptions ms (g.seatAll list h) := by
  rw [History.seatAll_orders g list hg]
  exact hh.enrolled World.subscriptions Happening.subscriptionOrder? Happening.isGather
    Step.subscriptions Dispatch.arrangement hg he

end Moment

namespace Turn

variable (b : Behaviour κ σ) (t : Turn κ σ)

theorem response_quiet (id : RequestId) (o : Outcome) :
    ∀ x ∈ t.handleDeeds b (.response id o), x.isQuiet = true := by
  simp only [handleDeeds]
  rcases t.world.queries.resolve id with ⟨_ | code, queries⟩
  · intro x hx
    rw [List.mem_singleton.mp hx]
    rfl
  · intro x hx
    obtain rfl | hx := List.mem_cons.mp hx
    · rfl
    · obtain ⟨a, reply, rfl⟩ := Stage.mem_deeds hx
      rfl

theorem handleDeeds_calls (a : Arrival) :
    (t.handleDeeds b a).notified =
      (t.handleDeeds b a).delivered.flatMap (Dispatch.calls t.session.subscriptions) := by
  cases a with
  | event e =>
    simp only [handleDeeds]
    cases e.entity.filter fun x => !t.world.isAlive x with
    | some x => rfl
    | none =>
      have hn : (Dispatch.deeds b e t.session.subscriptions t.session.stage).notified =
          Dispatch.calls t.session.subscriptions e :=
        (Dispatch.deeds_filterMap (fun _ _ => rfl) b _ e _).trans
          (congrFun List.filterMap_eq_map _)
      have hd : (Dispatch.deeds b e t.session.subscriptions t.session.stage).delivered = [] :=
        (Dispatch.deeds_filterMap (fun _ _ => rfl) b _ e _).trans
          (List.filterMap_eq_nil_iff.mpr fun _ _ => rfl)
      rw [← List.singleton_append, History.notified_append, History.delivered_append, hn, hd]
      exact (List.append_nil _).symm
  | response id o =>
    obtain ⟨hd, hn, _⟩ := History.quiet (response_quiet b t id o)
    rw [hd, hn]
    rfl

theorem handleDeeds_turns (a : Arrival) :
    List.Forall₂ HostEvent.Turn a.event?.toList ((t.handleDeeds b a).filter Happening.isTurn) := by
  cases a with
  | event e =>
    simp only [handleDeeds]
    cases hx : e.entity.filter fun x => !t.world.isAlive x with
    | some x => exact .cons (.dropped (Option.filter_eq_some_iff.mp hx).1) .nil
    | none =>
      have hd : (Dispatch.deeds b e t.session.subscriptions t.session.stage).filter
          Happening.isTurn = [] := List.filter_eq_nil_iff.mpr fun x hx => by
        obtain ⟨a, reply, rfl⟩ | ⟨h, rfl⟩ := Dispatch.mem_deeds hx <;> exact Bool.false_ne_true
      rw [List.filter_cons_of_pos rfl, hd]
      exact .cons .delivered .nil
  | response id o =>
    rw [(History.quiet (response_quiet b t id o)).2.2]
    exact .nil

theorem handle_fits {list : Members (Subscription κ)} {a : Arrival}
    (hf : Dispatch.Fits t.session.subscriptions list) :
    Dispatch.Fits (t.handle b a).session.subscriptions list :=
  (congrArg Cast.subscriptions (t.handle_cast b a)).trans hf

theorem handleAll_calls {list : Members (Subscription κ)} (as : List Arrival)
    (hf : Dispatch.Fits t.session.subscriptions list) :
    (t.along (handle b) (handleDeeds b) as).notified =
      (t.along (handle b) (handleDeeds b) as).delivered.flatMap (Dispatch.calls list) := by
  induction as generalizing t with
  | nil => rfl
  | cons a as ih =>
    rw [along, History.notified_append, History.delivered_append, List.flatMap_append,
      handleDeeds_calls, funext hf.calls_eq, ih _ (handle_fits b t hf)]

theorem handleAll_turns (as : List Arrival) :
    List.Forall₂ HostEvent.Turn (as.filterMap Arrival.event?)
      ((t.along (handle b) (handleDeeds b) as).filter Happening.isTurn) := by
  induction as generalizing t with
  | nil => exact .nil
  | cons a as ih =>
    have hs : (a :: as).filterMap Arrival.event? =
        a.event?.toList ++ as.filterMap Arrival.event? := by
      rw [List.filterMap_cons]
      cases a.event? <;> rfl
    rw [along, List.filter_append, hs]
    exact List.rel_append (handleDeeds_turns b t a) (ih (t.handle b a))

end Turn

theorem Happening.quiet_of_part {x : Happening κ}
    (hx : x.inIntake = true ∨ x.inExpiry = true ∨ x.inUpdate = true ∨ x.isFlush = true) :
    x.isQuiet = true := by
  cases x with
  | deliver e => simp [inIntake, inExpiry, inUpdate, isFlush] at hx
  | notify h e => simp [inIntake, inExpiry, inUpdate, isFlush] at hx
  | drop d => simp [inIntake, inExpiry, inUpdate, isFlush] at hx
  | _ => rfl

theorem Happening.not_gather {x : Happening κ} (hx : x.inDispatch = true ∨ x.inExpiry = true ∨
    x.inUpdate = true ∨ x.isFlush = true) : x.isGather = false := by
  cases x with
  | gather => simp [inDispatch, inExpiry, inUpdate, isFlush] at hx
  | _ => rfl

namespace Session

/-- The subscriptions, with all that is ordered of them, are those of a list. -/
def Seated (s : Session κ σ) (list : Members (Subscription κ)) : Prop :=
  Enrolled Dispatch.place Dispatch.Fits s.world.subscriptions s.subscriptions list

def arriving (s : Session κ σ) : List HostEvent :=
  s.waiting.filterMap fun frame => (Arrival.ofFrame s.world frame).toOption.bind Arrival.event?

def intake (s : Session κ σ) : History κ := .begin :: s.link.toScene.waiting.map .hear

def closing (b : Behaviour κ σ) (dt : Binary64) (s : Session κ σ) : History κ :=
  (s.dispatched b).expireDeeds b ++ ((s.dispatched b).expire b).updateDeeds b dt
    ++ [(s.worked b dt).telling]

def handling (b : Behaviour κ σ) (s : Session κ σ) : History κ :=
  let t := (Turn.begin s).receiveAll
  t.gathered.along (Turn.handle b) (Turn.handleDeeds b) t.session.inbox

section
variable {b : Behaviour κ σ} {dt : Binary64} {s : Session κ σ} {h : History κ}
  {types : Registry}

theorem deeds_gather (hf : s.failure = none)
    (hd : ¬ (Turn.begin s).receiveAll.session.link.toScene.isDry = true) :
    s.deeds b (.tick dt) = s.intake ++ .gather :: (s.handling b ++ s.closing b dt) := by
  rw [deeds_opening hf hd, opening, closing]
  simp only [List.append_assoc]
  rfl

theorem mem_closing {x : Happening κ} (hx : x ∈ s.closing b dt) :
    x.inExpiry = true ∨ x.inUpdate = true ∨ x.isFlush = true := by
  rw [closing, List.mem_append, List.mem_append] at hx
  obtain (hx | hx) | hx := hx
  · exact .inl (Turn.expireDeeds_inExpiry hx)
  · exact .inr (.inl (Turn.updateDeeds_inUpdate hx))
  · rw [List.mem_singleton.mp hx]
    exact .inr (.inr rfl)

theorem intake_not_gather : ∀ x ∈ s.intake, x.isGather = false := by
  intro x hx
  obtain rfl | hx := List.mem_cons.mp hx
  · rfl
  · obtain ⟨frame, _, rfl⟩ := List.mem_map.mp hx
    rfl

theorem after_not_gather : ∀ x ∈ s.handling b ++ s.closing b dt, x.isGather = false := by
  intro x hx
  obtain hx | hx := List.mem_append.mp hx
  · exact Happening.not_gather (.inl (Turn.handleAll_inDispatch hx))
  · exact Happening.not_gather (.inr (mem_closing hx))

theorem after_trail (hf : s.failure = none)
    (hd : ¬ (Turn.begin s).receiveAll.session.link.toScene.isDry = true) :
    Trail ((Turn.begin s).receiveAll.gathered.moment .work
        (Turn.begin s).receiveAll.session.inbox [])
      (s.handling b ++ s.closing b dt) (s.tick b dt).2.moment := by
  have hh := Turn.along_trail (Turn.begin s).receiveAll.gathered (fun t as => t.moment .work as [])
    (Turn.handle_trail b) (Turn.begin s).receiveAll.session.inbox
  have he := Turn.expire_trail b (s.dispatched b)
  have hu := Turn.update_trail b ((s.dispatched b).expire b) dt
  exact hh.trans (.snoc (he.trans hu) (telling_step b dt hf hd))

theorem gathered_seated (hh : Trail (.fresh types) h s.moment) (hs : s.Seated h.audience)
    (hf : s.failure = none) :
    Dispatch.Fits (Turn.begin s).receiveAll.gathered.session.subscriptions
        (h ++ s.intake ++ [.gather] : History κ).audience ∧
      ∀ ms, Dispatch.Fits ms (h ++ s.intake ++ [.gather] : History κ).audience →
        Enrolled Dispatch.place Dispatch.Fits
          (Turn.begin s).receiveAll.gathered.world.subscriptions ms
          (h ++ s.intake ++ [.gather] : History κ).audience := by
  have hi : Trail s.moment s.intake _ := intake_trail hf
  have he := hi.seated intake_not_gather hs h
  have hm : (Turn.begin s).receiveAll.session.subscriptions = s.subscriptions :=
    congrArg Prod.snd s.receiveAll_members
  have hl : (h ++ s.intake ++ [.gather] : History κ).audience =
      (History.seatAll h h.audience s.intake).filter
        (·.2.isBound (Turn.begin s).receiveAll.world) := by
    rw [History.audience_concat, History.audience_append]
    exact List.filter_congr fun m _ => ((hh.trans hi).isBound_eq m.2).symm
  rw [hl]
  exact Dispatch.gather_enrolled (hm ▸ he)

theorem update_subscriptions (t : Turn κ σ) :
    (t.update b dt).session.subscriptions = t.session.subscriptions := by
  simp only [Turn.update]
  split <;> rfl

theorem tick_fits {list : Members (Subscription κ)} (hf : s.failure = none)
    (hd : ¬ (Turn.begin s).receiveAll.session.link.toScene.isDry = true)
    (hl : Dispatch.Fits (Turn.begin s).receiveAll.gathered.session.subscriptions list) :
    Dispatch.Fits (s.tick b dt).2.subscriptions list := by
  have hm := congrArg Prod.snd (tick_members b dt hf)
  rw [step_wet b dt hd] at hm
  have hw : (s.tick b dt).2.subscriptions = ((s.dispatched b).expire b).session.subscriptions :=
    hm.trans ((congrArg Prod.snd (flush_members _)).trans (update_subscriptions _))
  have hc := ((s.dispatched b).expire_cast b).trans ((Turn.begin s).receiveAll.dispatch_cast b)
  rw [Dispatch.Fits, hw]
  exact (congrArg Cast.subscriptions hc).trans hl

theorem Seated.tick (hs : s.Seated h.audience) (hh : Trail (.fresh types) h s.moment)
    (b : Behaviour κ σ) (dt : Binary64) :
    (s.tick b dt).2.Seated (h ++ s.deeds b (.tick dt) : History κ).audience := by
  by_cases hn : s.isFailed = true
  · rw [deeds, if_pos hn, tick_failed hn, List.append_nil]
    exact hs
  have hf : s.failure = none := Option.not_isSome_iff_eq_none.mp hn
  by_cases hd : (Turn.begin s).receiveAll.session.link.toScene.isDry = true
  · have ht := tick_trail b dt hf
    have hm := congrArg Prod.snd (tick_members b dt hf)
    rw [step_dry b dt hd] at hm
    have hu : (s.tick b dt).2.subscriptions = s.subscriptions :=
      hm.trans (congrArg Prod.snd s.receiveAll_members)
    rw [stepDeeds_dry b dt hd] at ht
    rw [deeds, if_neg hn, stepDeeds_dry b dt hd, History.audience_append, Seated, hu]
    refine ht.seated (fun x hx => ?_) hs h
    obtain hx | hx := List.mem_append.mp hx
    · exact intake_not_gather x hx
    · rw [List.mem_singleton.mp hx]
      rfl
  -- What was ordered before the subscriptions are gathered is carried out then; the rest waits.
  · obtain ⟨hl, he⟩ := gathered_seated hh hs hf
    have hg : h ++ s.deeds b (.tick dt) =
        h ++ s.intake ++ [.gather] ++ (s.handling b ++ s.closing b dt) := by
      rw [deeds_gather hf hd]
      simp only [List.append_assoc, List.cons_append, List.nil_append]
    rw [hg, History.audience_append]
    exact (after_trail hf hd).seated after_not_gather (he _ (tick_fits hf hd hl)) _

theorem Seated.apply (hs : s.Seated h.audience) (hh : Trail (.fresh types) h s.moment)
    (b : Behaviour κ σ) (m : Move κ σ) :
    (s.apply b m).Seated (h ++ s.deeds b m : History κ).audience := by
  obtain ⟨a, rfl⟩ | ⟨dt, rfl⟩ | ⟨hd, memory, journal, paused, link, he, _⟩ := apply_cases b s m
  · rw [History.audience_append]
    refine (act_trail s a).seated (fun x hx => ?_) hs h
    rw [List.mem_singleton.mp hx]
    rfl
  · exact hs.tick hh b dt
  · rw [hd, List.append_nil, he]
    exact hs

theorem Seated.after (hs : s.Seated h.audience) (hh : Trail (.fresh types) h s.moment)
    (b : Behaviour κ σ) (ms : List (Move κ σ)) :
    (s.after b ms).Seated (h ++ s.history b ms : History κ).audience := by
  induction ms generalizing s h with
  | nil =>
    rw [history, List.append_nil]
    exact hs
  | cons m ms ih =>
    rw [history, ← List.append_assoc]
    exact ih (hs.apply hh b m) (hh.trans (apply_trail b s m))

theorem Seated.start (config : Config) (types : Registry) (memory : σ) :
    (Session.start config ({ types } : World κ) memory).Seated (History.audience []) :=
  .fresh rfl

theorem inbox_events (hi : s.inbox = []) :
    (Turn.begin s).receiveAll.session.inbox.filterMap Arrival.event? = s.arriving := by
  rw [receiveAll_inbox hi, List.filterMap_map, List.filterMap_filterMap]
  rfl

theorem tick_calls (b : Behaviour κ σ) (dt : Binary64) (hh : Trail (.fresh types) h s.moment)
    (hs : s.Seated h.audience) (hi : s.inbox = []) (hf : s.failure = none)
    (hd : ¬ (Turn.begin s).receiveAll.session.link.toScene.isDry = true) :
    (s.deeds b (.tick dt)).notified = (s.deeds b (.tick dt)).delivered.flatMap
        (Dispatch.calls (h ++ s.intake ++ [.gather] : History κ).audience) ∧
      List.Forall₂ HostEvent.Turn s.arriving
        ((s.deeds b (.tick dt)).filter Happening.isTurn) := by
  obtain ⟨hd₁, hn₁, ht₁⟩ := History.quiet (h := s.intake ++ [.gather]) fun x hx => by
    obtain hx | hx := List.mem_append.mp hx
    · exact Happening.quiet_of_part (.inl (intake_inIntake hx))
    · exact List.mem_singleton.mp hx ▸ rfl
  obtain ⟨hd₂, hn₂, ht₂⟩ := History.quiet (h := s.closing b dt) fun x hx =>
    Happening.quiet_of_part (.inr (mem_closing hx))
  have hg : s.deeds b (.tick dt) =
      (s.intake ++ [.gather]) ++ (s.handling b ++ s.closing b dt) := by
    rw [deeds_gather hf hd, List.append_assoc]
    rfl
  have hc := Turn.handleAll_calls b _ (Turn.begin s).receiveAll.session.inbox
    (gathered_seated hh hs hf).1
  have ht := Turn.handleAll_turns b (Turn.begin s).receiveAll.gathered
    (Turn.begin s).receiveAll.session.inbox
  rw [inbox_events hi] at ht
  rw [hg]
  simp only [History.notified_append, History.delivered_append, List.filter_append, hd₁, hn₁, ht₁,
    hd₂, hn₂, ht₂, List.nil_append, List.append_nil]
  exact ⟨hc, ht⟩

theorem quiet_or_open (b : Behaviour κ σ) (dt : Binary64) (s : Session κ σ) :
    (∀ x ∈ s.deeds b (.tick dt), x.isGather = false ∧ x.isQuiet = true) ∨
      s.failure = none ∧ ¬ (Turn.begin s).receiveAll.session.link.toScene.isDry = true := by
  by_cases hn : s.isFailed = true
  · rw [deeds, if_pos hn]
    exact .inl fun x hx => absurd hx List.not_mem_nil
  by_cases hd : (Turn.begin s).receiveAll.session.link.toScene.isDry = true
  · rw [deeds, if_neg hn, stepDeeds_dry b dt hd]
    refine .inl fun x hx => ?_
    obtain hx | hx := List.mem_append.mp hx
    · exact ⟨intake_not_gather x hx, Happening.quiet_of_part (.inl (intake_inIntake hx))⟩
    · rw [List.mem_singleton.mp hx]
      exact ⟨rfl, rfl⟩
  · exact .inr ⟨Option.not_isSome_iff_eq_none.mp hn, hd⟩

end

/-- The calls of subscribers in a tick are, for each event that is delivered, one of each that wants
the event, in the order of subscription. They are those that have been made and not removed when the
subscriptions are gathered, but for those whose entity is gone by then; if none of them came before
its entity, only those count as removed that are revoked. The events have their turns in the order
in which they arrive, and one is dropped if its entity is gone when its turn comes. -/
theorem events_reach_audience (b : Behaviour κ σ) (config : Config) (types : Registry) (memory : σ)
    (moves : List (Move κ σ)) (dt : Binary64) :
    let s := start config ({ types } : World κ) memory
    let h := s.history b moves
    let u := s.after b moves
    let d := u.deeds b (.tick dt)
    (∀ x, u.world.isAlive x = h.isLiving x) ∧
    (∀ g g' : History κ, d = g ++ .gather :: g' →
      let list := (h ++ g : History κ).audience.filter fun m => (h ++ g : History κ).isBound m.2
      list.Pairwise (·.1.number < ·.1.number) ∧
      d.notified = d.delivered.flatMap (Dispatch.calls list) ∧
      List.Forall₂ HostEvent.Turn u.arriving (d.filter Happening.isTurn) ∧
      ((h ++ g : History κ).isPrompt = true → list =
        (h ++ g : History κ).subscribers.filter fun m => (h ++ g : History κ).isBound m.2)) ∧
    (.gather ∉ d → d.notified = [] ∧ d.delivered = []) ∧
    (∀ (g g' : History κ) e, d = g ++ .deliver e :: g' →
      ∀ x ∈ e.entity, (h ++ g : History κ).isLiving x = true) ∧
    ∀ (g g' : History κ) name x, d = g ++ .drop (.deadEntity name x) :: g' →
      (h ++ g : History κ).isLiving x = false := by
  intro s h u d
  have hh : Trail (.fresh types) h u.moment := start_trail b config types memory moves
  have hs : u.Seated h.audience := (Seated.start config types memory).after .nil b moves
  have hd : Trail u.moment d _ := apply_trail b u (.tick dt)
  refine ⟨hh.isAlive_eq, fun g g' he => ?_, fun hn => ?_, fun g g' e he x hx => ?_,
    fun g g' name x he => ?_⟩
  · obtain hq | ⟨hf, hw⟩ := quiet_or_open b dt u
    · have hm : .gather ∈ d := he ▸ List.mem_append_right _ (.head _)
      exact Bool.noConfusion (hq _ hm).1
    have hi : u.inbox = [] := ((Ready.start config types memory).after b moves).idle.resolve_right
      fun h => Option.some_ne_none _ (h.symm.trans hf)
    obtain ⟨rfl, -⟩ := (List.append_cons_inj_of_notMem
      (fun hm => Bool.noConfusion (intake_not_gather _ hm))
      fun hm => Bool.noConfusion (after_not_gather _ hm)).mp ((deeds_gather hf hw).symm.trans he)
    obtain ⟨hc, ht⟩ := tick_calls b dt hh hs hi hf hw
    rw [History.audience_concat] at hc
    have ho := ((gathered_seated hh hs hf).2 _ (gathered_seated hh hs hf).1).ordered
    rw [History.audience_concat] at ho
    exact ⟨ho, hc, ht, History.audience_of_prompt⟩
  · obtain hq | ⟨hf, hw⟩ := quiet_or_open b dt u
    · obtain ⟨hd, hc, _⟩ := History.quiet fun x hx => (hq x hx).2
      exact ⟨hc, hd⟩
    · have hg : d = u.intake ++ .gather :: _ := deeds_gather hf hw
      exact absurd (hg ▸ List.mem_append_right _ (.head _)) hn
  · rw [he] at hd
    obtain ⟨m, m', hg, hx', _⟩ := hd.split_at
    cases hx' with
    | deliver hp hi ha => exact (hh.trans hg).isAlive_eq x ▸ ha x hx
  · rw [he] at hd
    obtain ⟨m, m', hg, hx', _⟩ := hd.split_at
    cases hx' with
    | dropEvent _ hp hi ha => exact (hh.trans hg).isAlive_eq x ▸ ha

/-- The first of three subscribers destroys an entity when it learns of an event for another. The
second learns of it all the same, and the event for the entity that is gone is dropped. -/
theorem events_reach_audience_gone :
    let s := start {} ({ types := ∅ } : World (Option Entity)) ()
    let ms : List (Move (Option Entity) Unit) := [.act .create, .act .create,
      .act (.subscribe ⟨"e", none, some ⟨2⟩⟩), .act (.subscribe ⟨"e", none, none⟩),
      .act (.subscribe ⟨"e", some ⟨2⟩, none⟩),
      .send "\x7b\"type\":\"event\",\"eventName\":\"e\",\"entityId\":1\x7d",
      .send "\x7b\"type\":\"event\",\"eventName\":\"e\",\"entityId\":2\x7d"]
    let h := s.history .destroying ms
    let u := s.after .destroying ms
    let d := u.deeds .destroying (.tick ⟨0⟩)
    ∃ g g' : History (Option Entity), d = g ++ .gather :: g' ∧
      let list := (h ++ g : History (Option Entity)).subscribers.filter fun m =>
        (h ++ g : History (Option Entity)).isBound m.2
      list.map (·.1.number) = [1, 2, 3] ∧
      d.notified = d.delivered.flatMap (Dispatch.calls list) ∧
      d.notified.map (·.1.number) = [1, 2] ∧ d.countP Happening.isTurn = 2 := by
  intro s ms h u d
  obtain ⟨_, hc, _⟩ := events_reach_audience .destroying {} ∅ () ms ⟨0⟩
  have hd : d = u.intake ++ .gather :: (u.handling .destroying ++ u.closing .destroying ⟨0⟩) :=
    deeds_gather (by decide +kernel) (by decide +kernel)
  obtain ⟨_, hn, _, hp⟩ := hc _ _ hd
  rw [hp (by decide +kernel)] at hn
  exact ⟨_, _, hd, by decide +kernel, hn, by decide +kernel, by decide +kernel⟩

end Session

end Diorama
