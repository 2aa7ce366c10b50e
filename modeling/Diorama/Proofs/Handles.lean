import Diorama.Proofs.Holdings

/-!
Handles and members. At every point of a run the valid handles are those of the members that there
will be when all that is ordered of them has been carried out, so what a handle is answered can be
told from what has been done with it.
-/

namespace Diorama

variable {κ σ α : Type}

namespace Roster

/-- The valid handles are those of the members, with what is ordered of them carried out, and no two
members have one handle. -/
structure Agrees (place : Handle α × α → Members α → Members α) (r : Roster α)
    (ms : Members α) : Prop where
  valid (k : Handle α) : k ∈ r.valid ↔ k ∈ (r.call place ms).1.map (·.1)
  called : ((r.call place ms).1.map (·.1)).Nodup
  members : (ms.map (·.1)).Nodup

/-- The handle has been handed out, and is not valid any more. -/
def Spent (r : Roster α) (k : Handle α) : Prop := k.number ≤ r.issued ∧ k ∉ r.valid

end Roster

/-- The members are enrolled, and nobody else has a valid handle. -/
structure Listed (place : Handle α × α → Members α → Members α)
    (Fits : Members α → Members α → Prop) (r : Roster α) (ms list : Members α) : Prop
    extends Enrolled place Fits r ms list where
  known {k : Handle α} : k ∈ r.valid → k ∈ list.map (·.1)
  members : (ms.map (·.1)).Nodup

namespace Listed

variable {place : Handle α × α → Members α → Members α} {Fits : Members α → Members α → Prop}
  {r r' : Roster α} {ms list : Members α} {k : Handle α}

theorem fresh (hf : Fits [] []) : Listed place Fits {} [] [] where
  toEnrolled := .fresh hf
  known hk := absurd hk List.not_mem_nil
  members := .nil

theorem valid_iff (hl : Listed place Fits r ms list) : k ∈ r.valid ↔ k ∈ list.map (·.1) :=
  ⟨hl.known, fun hk => by
    obtain ⟨m, hm, rfl⟩ := List.mem_map.mp hk
    exact hl.valid hm⟩

theorem step (ha : Arrangement place Fits) (hl : Listed place Fits r ms list)
    {order? : Option (Order α)} (hr : r.Step order? r') :
    Listed place Fits r' ms (order?.toList.foldl Order.enlist list) := by
  refine ⟨hl.toEnrolled.step ha hr, fun {k} hk => ?_, hl.members⟩
  cases hr with
  | join a =>
    refine List.map_append ▸ List.mem_append.mpr ?_
    exact (List.mem_append.mp hk).imp hl.known id
  | leave h =>
    rw [Roster.leave] at hk
    have hm : k ∈ r.valid ∧ k ≠ h := by
      split at hk
      · exact ⟨(List.mem_filter.mp hk).1, of_decide_eq_true (List.mem_filter.mp hk).2⟩
      · refine ⟨hk, ?_⟩
        rintro rfl
        contradiction
    obtain ⟨m, hl, rfl⟩ := List.mem_map.mp (hl.known hm.1)
    exact List.mem_map_of_mem (List.mem_filter.mpr ⟨hl, decide_eq_true hm.2⟩)
  | stay => exact hl.known hk

section
variable (hf : ∀ {ms list : Members α}, Fits ms list → (ms.map (·.1)).Perm (list.map (·.1)))
include hf

theorem agrees (hl : Listed place Fits r ms list) : r.Agrees place ms where
  valid _ := hl.valid_iff.trans (hf hl.fits).mem_iff.symm
  called := (hf hl.fits).nodup_iff.mpr (List.pairwise_map.mpr (hl.ordered.imp fun h he =>
    Nat.ne_of_lt h (congrArg Handle.number he)))
  members := hl.members

theorem call (hl : Listed place Fits r ms list) :
    Listed place Fits (r.call place ms).2 (r.call place ms).1 list where
  toEnrolled := hl.toEnrolled.called hl.fits
  known := hl.known
  members := (hl.agrees hf).called

end

end Listed

theorem Schedule.Fits.handles {ms list : Members (System κ)} (hf : Fits ms list) :
    (ms.map (·.1)).Perm (list.map (·.1)) := by
  have hp := hf.same.map (·.1)
  rwa [List.map_map, List.map_map] at hp

theorem Dispatch.Fits.handles {ms list : Members (Subscription κ)} (hf : Fits ms list) :
    (ms.map (·.1)).Perm (list.map (·.1)) :=
  .of_eq (Members.handles_of_view Subscription.post (fun _ => rfl) hf)

theorem Listed.gather {w : World κ} {ms list : Members (Subscription κ)}
    (hl : Listed Dispatch.place Dispatch.Fits w.subscriptions ms list) :
    Listed Dispatch.place Dispatch.Fits (Dispatch.gather w ms).2.subscriptions
      (Dispatch.gather w ms).1 (list.filter (·.2.isBound w)) := by
  obtain ⟨hf, he⟩ := Dispatch.gather_enrolled hl.toEnrolled
  obtain ⟨hk, hr⟩ := Dispatch.gather_eq w ms
  refine ⟨he _ hf, fun {k} hv => ?_, ?_⟩
  · rw [hr] at hv
    obtain ⟨hv, hn⟩ := List.mem_filter.mp hv
    rw [← hf.handles.mem_iff, hk]
    obtain ⟨m, hm, rfl⟩ := List.mem_map.mp
      (((hl.agrees Dispatch.Fits.handles).valid k).mp hv)
    refine List.mem_map_of_mem (List.mem_filter.mpr ⟨hm, ?_⟩)
    by_contra hb
    refine of_decide_eq_true hn (List.mem_map_of_mem (List.mem_filter.mpr ⟨hm, ?_⟩))
    simpa using hb
  · rw [hk]
    exact (hl.agrees Dispatch.Fits.handles).called.sublist (List.filter_sublist.map _)

namespace Snapshot

variable {n : Snapshot κ} {x : Happening κ} (timeout : Nat) (hx : n.Admits x)
include hx

theorem next_systems (hc : x.isConvene = false) :
    n.world.systems.Step x.systemOrder? (n.next timeout x).world.systems ∧
      (n.next timeout x).systems = n.systems := by
  cases x with
  | act a reply =>
    obtain rfl : reply = _ := hx
    exact ⟨n.world.perform_systems a, rfl⟩
  | convene => cases hc
  | answer id code o => cases o <;> exact ⟨.stay, rfl⟩
  | _ => exact ⟨.stay, rfl⟩

theorem next_subscriptions (hg : x.isGather = false) :
    n.world.subscriptions.Step x.subscriptionOrder? (n.next timeout x).world.subscriptions ∧
      (n.next timeout x).subscriptions = n.subscriptions := by
  cases x with
  | act a reply =>
    obtain rfl : reply = _ := hx
    exact ⟨n.world.perform_subscriptions a, rfl⟩
  | gather => cases hg
  | answer id code o => cases o <;> exact ⟨.stay, rfl⟩
  | _ => exact ⟨.stay, rfl⟩

end Snapshot

namespace History

variable {timeout : Nat} {types : Registry} {g h : History κ} {x : Happening κ}

theorem systems_concat :
    systems (h ++ [x]) = x.systemOrder?.toList.foldl Order.enlist h.systems := by
  rw [systems_append, List.filterMap_cons]
  cases x.systemOrder? <;> rfl

def Staffing (timeout : Nat) (types : Registry) (h : History κ) : Prop :=
  Listed Schedule.place Schedule.Fits (h.replay timeout types).world.systems
    (h.replay timeout types).systems h.systems

def Seating (timeout : Nat) (types : Registry) (h : History κ) : Prop :=
  Listed Dispatch.place Dispatch.Fits (h.replay timeout types).world.subscriptions
    (h.replay timeout types).subscriptions h.audience

theorem Follows.systems (hh : h.Follows timeout types) : h.Staffing timeout types := by
  refine Follows.always (P := Staffing timeout types) (g := []) (.fresh ⟨.nil, .nil⟩)
    (fun h x hx hl => ?_) hh
  unfold Staffing at hl ⊢
  rw [replay_concat, systems_concat]
  cases hc : x.isConvene with
  | true =>
    cases x with
    | convene => exact hl.call Schedule.Fits.handles
    | _ => cases hc
  | false =>
    obtain ⟨hs, hm⟩ := Snapshot.next_systems timeout hx.admits hc
    rw [hm]
    exact hl.step Schedule.arrangement hs

theorem Follows.isBound_eq (hh : h.Follows timeout types) (s : Subscription κ) :
    s.isBound (h.replay timeout types).world = h.isBound s :=
  congrArg (s.target.all ·) (funext hh.sound.census.alive)

theorem Follows.subscriptions (hh : h.Follows timeout types) : h.Seating timeout types := by
  refine Follows.always (P := Seating timeout types) (g := []) (.fresh rfl)
    (fun h x hx hl => ?_) hh
  unfold Seating at hl ⊢
  rw [replay_concat, audience_concat]
  cases hg : x.isGather with
  | true =>
    cases x with
    | gather =>
      have hb : (h.audience.filter fun m => h.isBound m.2) =
          h.audience.filter (·.2.isBound (h.replay timeout types).world) :=
        List.filter_congr fun m _ => (hx.left.isBound_eq m.2).symm
      rw [seat, hb]
      exact hl.gather
    | _ => cases hg
  | false =>
    obtain ⟨hs, hm⟩ := Snapshot.next_subscriptions timeout hx.admits hg
    rw [hm, seat_order _ _ hg]
    exact hl.step Dispatch.arrangement hs

end History

theorem Roster.Agrees.absent {place : Handle α × α → Members α → Members α} {r : Roster α}
    {ms : Members α} {k : Handle α} (ha : r.Agrees place ms) (hk : r.Spent k) :
    k ∉ (r.call place ms).1.map (·.1) := fun hm => hk.2 ((ha.valid k).mpr hm)

namespace History

variable {timeout : Nat} {types : Registry} {g h : History κ} {x : Happening κ}

end History

namespace Session

end Session

end Diorama
