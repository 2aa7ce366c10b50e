import Diorama.Proofs.Parts

/-!
Who is on a roster. The members that are called are those who have joined and not left by then,
whatever was ordered and when, and however the members are placed.
-/

namespace Diorama

variable {κ σ α : Type}

def Order.enlist (ms : Members α) : Order α → Members α
  | join h a => ms ++ [(h, a)]
  | leave h => ms.filter (·.1 ≠ h)

theorem Order.mem_enlist_iff {order? : Option (Order α)} {ms : Members α} {m : Handle α × α} :
    m ∈ order?.toList.foldl enlist ms ↔
      m ∈ ms ∧ ¬ order? = some (.leave m.1) ∨ order? = some (.join m.1 m.2) := by
  cases order? with
  | none => simp
  | some order =>
    cases order with
    | join h a =>
      change m ∈ ms ++ [(h, a)] ↔ _
      simp [Prod.ext_iff, eq_comm]
    | leave h =>
      change m ∈ ms.filter (·.1 ≠ h) ↔ _
      simp [@eq_comm _ h]

/-- What an action can do to a roster, and the order that it amounts to. -/
inductive Roster.Step (r : Roster α) : Option (Order α) → Roster α → Prop
  | join (a : α) : Step r (some (.join (r.join a).1 a)) (r.join a).2
  | leave (h : Handle α) : Step r (some (.leave h)) (r.leave h).2
  | stay : Step r none r

namespace Happening

def systemOrder? : Happening κ → Option (Order (System κ))
  | .act (.register s) h => some (.join h s)
  | .act (.unregister h) _ => some (.leave h)
  | _ => none

def subscriptionOrder? : Happening κ → Option (Order (Subscription κ))
  | .act (.subscribe s) h => some (.join h s)
  | .act (.unsubscribe h) _ => some (.leave h)
  | _ => none

theorem systemOrder?_eq_join {x : Happening κ} {h : Handle (System κ)} {s : System κ} :
    x.systemOrder? = some (.join h s) ↔ x = .act (.register s) h := by
  cases x with
  | act a reply => cases a <;> simp [systemOrder?, and_comm]
  | _ => simp [systemOrder?]

theorem subscriptionOrder?_eq_join {x : Happening κ} {h : Handle (Subscription κ)}
    {s : Subscription κ} :
    x.subscriptionOrder? = some (.join h s) ↔ x = .act (.subscribe s) h := by
  cases x with
  | act a reply => cases a <;> simp [subscriptionOrder?, and_comm]
  | _ => simp [subscriptionOrder?]

def isGather : Happening κ → Bool
  | .gather => true
  | _ => false

def isConvene : Happening κ → Bool
  | .convene => true
  | _ => false

end Happening

namespace World

theorem perform_systems (w : World κ) (a : Action κ) :
    w.systems.Step (Happening.act a (w.perform a).1).systemOrder? (w.perform a).2.systems := by
  by_cases ha : a.isEdit = true
  · obtain ⟨s, hw, _⟩ := w.perform_isEdit ha
    rw [hw]
    cases a <;> first | exact .stay | cases ha
  · cases a with
    | register s => exact .join s
    | unregister h => exact .leave h
    | _ => first | exact .stay | exact absurd rfl ha

theorem perform_subscriptions (w : World κ) (a : Action κ) :
    w.subscriptions.Step (Happening.act a (w.perform a).1).subscriptionOrder?
      (w.perform a).2.subscriptions := by
  by_cases ha : a.isEdit = true
  · obtain ⟨s, hw, _⟩ := w.perform_isEdit ha
    rw [hw]
    cases a <;> first | exact .stay | cases ha
  · cases a with
    | subscribe s => exact .join s
    | unsubscribe h => exact .leave h
    | _ => first | exact .stay | exact absurd rfl ha

end World

/-- A way to place members that keeps them in line with the list in the order of joining. -/
structure Arrangement (place : Handle α × α → Members α → Members α)
    (Fits : Members α → Members α → Prop) : Prop where
  join {ms list : Members α} {m : Handle α × α} : Fits ms list →
    (∀ l ∈ list, l.1.number < m.1.number) → Fits (place m ms) (list ++ [m])
  leave {ms list : Members α} (h : Handle α) : Fits ms list →
    Fits (ms.filter (·.1 ≠ h)) (list.filter (·.1 ≠ h))

/-- With all that is ordered carried out, the members are in line with the list. -/
structure Enrolled (place : Handle α × α → Members α → Members α)
    (Fits : Members α → Members α → Prop) (r : Roster α) (ms list : Members α) : Prop where
  fits : Fits (r.call place ms).1 list
  valid {m : Handle α × α} : m ∈ list → m.1 ∈ r.valid
  issued {m : Handle α × α} : m ∈ list → m.1.number ≤ r.issued
  ordered : list.Pairwise (·.1.number < ·.1.number)

namespace Enrolled

variable {place : Handle α × α → Members α → Members α} {Fits : Members α → Members α → Prop}
  {r r' : Roster α} {ms list : Members α}

theorem fresh (hf : Fits [] []) : Enrolled place Fits {} [] [] where
  fits := hf
  valid hm := absurd hm List.not_mem_nil
  issued hm := absurd hm List.not_mem_nil
  ordered := .nil

theorem join (ha : Arrangement place Fits) (he : Enrolled place Fits r ms list) (a : α) :
    Enrolled place Fits (r.join a).2 ms (list ++ [((r.join a).1, a)]) := by
  have hn : ∀ l ∈ list, l.1.number < (r.join a).1.number := fun l hl =>
    Nat.lt_succ_of_le (he.issued hl)
  refine ⟨?_, fun hm => ?_, fun hm => ?_, ?_⟩
  · have hc : ((r.join a).2.call place ms).1 = place ((r.join a).1, a) (r.call place ms).1 :=
      List.foldl_append
    rw [hc]
    exact ha.join he.fits hn
  · obtain hm | hm := List.mem_append.mp hm
    · exact List.mem_append_left _ (he.valid hm)
    · rw [List.mem_singleton.mp hm]
      exact List.mem_append_right _ (.head _)
  · obtain hm | hm := List.mem_append.mp hm
    · exact Nat.le_succ_of_le (he.issued hm)
    · rw [List.mem_singleton.mp hm]
      exact Nat.le_refl _
  · refine List.pairwise_append.mpr ⟨he.ordered, List.pairwise_singleton .., fun l hl m hm => ?_⟩
    rw [List.mem_singleton.mp hm]
    exact hn l hl

theorem leave (ha : Arrangement place Fits) (he : Enrolled place Fits r ms list)
    (h : Handle α) :
    Enrolled place Fits (r.leave h).2 ms (list.filter (·.1 ≠ h)) := by
  rw [Roster.leave]
  split
  · refine ⟨?_, fun hm => ?_, fun hm => he.issued (List.mem_filter.mp hm).1, he.ordered.filter _⟩
    · have hc : (({ r with
          valid := r.valid.filter (· ≠ h), orders := r.orders ++ [.leave h] } : Roster α).call
            place ms).1 = (r.call place ms).1.filter (·.1 ≠ h) := List.foldl_append
      rw [hc]
      exact ha.leave h he.fits
    · obtain ⟨hm, hn⟩ := List.mem_filter.mp hm
      exact List.mem_filter.mpr ⟨he.valid hm, hn⟩
  -- A handle that is not valid is nobody's.
  · rename_i hv
    have hl : list.filter (·.1 ≠ h) = list := by
      refine List.filter_eq_self.mpr fun m hm => decide_eq_true ?_
      rintro rfl
      exact hv (he.valid hm)
    rw [hl]
    exact he

theorem step (ha : Arrangement place Fits) (he : Enrolled place Fits r ms list)
    {order? : Option (Order α)} (hr : r.Step order? r') :
    Enrolled place Fits r' ms (order?.toList.foldl Order.enlist list) := by
  cases hr with
  | join a => exact he.join ha a
  | leave h => exact he.leave ha h
  | stay => exact he

theorem eq_of_handle (ho : list.Pairwise (·.1.number < ·.1.number)) {l m : Handle α × α}
    (hl : l ∈ list) (hm : m ∈ list) (h : l.1 = m.1) : l = m := by
  induction ho with
  | nil => cases hl
  | cons hx _ ih =>
    obtain rfl | hl' := List.mem_cons.mp hl <;> obtain rfl | hm' := List.mem_cons.mp hm
    · rfl
    · exact absurd (hx m hm') (h ▸ Nat.lt_irrefl _)
    · exact absurd (hx l hl') (h ▸ Nat.lt_irrefl _)
    · exact ih hl' hm'

theorem called (he : Enrolled place Fits r ms list) {ms' : Members α} (hf : Fits ms' list) :
    Enrolled place Fits (r.call place ms).2 ms' list :=
  ⟨hf, he.valid, he.issued, he.ordered⟩

end Enrolled

/-- A subscription, whatever has become of its code. -/
def Subscription.post (m : Handle (Subscription κ) × Subscription κ) :
    Handle (Subscription κ) × String × Option Entity := (m.1, m.2.event, m.2.target)

structure Cast (κ : Type) where
  systems : Members (System κ)
  subscriptions : List (Handle (Subscription κ) × String × Option Entity)
  ran : Nat

theorem Dispatch.deliver_post (b : Behaviour κ σ) (scene : String) (e : HostEvent)
    (ms : Members (Subscription κ)) (s : Stage κ σ) :
    (deliver b scene e ms s).members.map Subscription.post = ms.map Subscription.post := by
  induction ms generalizing s with
  | nil => rfl
  | cons m ms ih =>
    simp only [deliver]
    split
    · split <;> exact congrArg (Subscription.post m :: ·) (ih _)
    · exact congrArg (Subscription.post m :: ·) (ih s)

namespace Turn

variable (b : Behaviour κ σ) (t : Turn κ σ)

def cast : Cast κ :=
  ⟨t.session.systems, t.session.subscriptions.map Subscription.post, t.report.systems⟩

theorem receive_cast (frame : String) : (t.receive frame).cast = t.cast := by
  rw [receive]
  split <;> rfl

theorem complete_cast (id : RequestId) (code : κ) (o : Outcome) :
    (t.complete b id code o).cast = t.cast := by
  simp only [complete]
  split <;> rfl

theorem handle_cast (a : Arrival) : (t.handle b a).cast = t.cast := by
  cases a with
  | event e =>
    simp only [handle]
    split
    · rfl
    · exact congrArg (Cast.mk _ · _) (Dispatch.deliver_post b _ e _ _)
  | response id o =>
    simp only [handle]
    split
    · exact complete_cast b _ _ _ _
    · rfl

theorem timeOut_cast (q : RequestId × κ) : (t.timeOut b q).cast = t.cast :=
  complete_cast b (t.log (.say .debug Target.session s!"Query '{q.1.text}' timed out")) _ _ _

theorem dispatch_cast : (t.dispatch b).cast = t.gathered.cast :=
  foldl_keeps t.gathered cast (handle_cast b) t.session.inbox

theorem expire_cast : (t.expire b).cast = t.cast :=
  foldl_keeps t.lapsed.2 cast (timeOut_cast b) t.lapsed.1

theorem receiveFrames_cast (frames : List String) : (frames.foldl receive t).cast = t.cast :=
  foldl_keeps t cast receive_cast frames

end Turn

namespace Moment

variable {m m' : Moment κ} {h : History κ} {x : Happening κ}

theorem Step.systems (hx : Step m x m') (hc : x.isConvene = false) :
    m.world.systems.Step x.systemOrder? m'.world.systems := by
  cases hx with
  | act a hp => exact m.world.perform_systems a
  | convene ms hp => cases hc
  | _ => exact .stay

theorem Step.subscriptions (hx : Step m x m') (hg : x.isGather = false) :
    m.world.subscriptions.Step x.subscriptionOrder? m'.world.subscriptions := by
  cases hx with
  | act a hp => exact m.world.perform_subscriptions a
  | gather ms hp => cases hg
  | _ => exact .stay

theorem Trail.enrolled (roster : World κ → Roster α) (order? : Happening κ → Option (Order α))
    (called : Happening κ → Bool)
    (hr : ∀ {m x m'}, Step m x m' → called x = false →
      (roster m.world).Step (order? x) (roster m'.world))
    {place : Handle α × α → Members α → Members α} {Fits : Members α → Members α → Prop}
    (ha : Arrangement place Fits) (hh : Trail m h m') (hc : ∀ x ∈ h, called x = false)
    {ms list : Members α} (he : Enrolled place Fits (roster m.world) ms list) :
    Enrolled place Fits (roster m'.world) ms ((h.filterMap order?).foldl Order.enlist list) := by
  induction hh with
  | nil => exact he
  | @snoc h m₁ m₂ x hm hx ih =>
    rw [filterMap_concat, List.foldl_append]
    have hs := ih fun y hy => hc y (List.mem_append_left _ hy)
    exact hs.step ha (hr hx (hc x (List.mem_append_right _ (.head _))))

end Moment

namespace Session

def members (s : Session κ σ) : Members (System κ) × Members (Subscription κ) :=
  (s.systems, s.subscriptions)

theorem flush_members (t : Turn κ σ) : t.flush.2.members = t.session.members := by
  rw [flush_session]
  rfl

theorem tick_members (b : Behaviour κ σ) (dt : Binary64) {s : Session κ σ}
    (hf : s.failure = none) : (s.tick b dt).2.members = (s.step b dt).2.members := by
  rw [tick, hf]
  rcases s.step b dt with ⟨f | r, u⟩ <;> rfl

theorem receiveAll_members (s : Session κ σ) :
    (Turn.begin s).receiveAll.session.members = s.members := by
  refine s.opened.foldl_keeps (fun t => t.session.members) (fun t frame => ?_)
    s.link.toScene.waiting
  rw [Turn.receive]
  split <;> rfl

end Session

end Diorama
