import Diorama.Proofs.Desk
import Mathlib.Data.List.Nodup

namespace Diorama

variable {κ σ : Type}

/-- What has become of the queries that were asked. -/
structure Ledger (h : History κ) (d : Desk κ) : Prop where
  asked : h.asked = (List.range d.queries.issued).map fun n => RequestId.ofNat (n + 1)
  balance (id : RequestId) : h.asked.count id =
    (d.queries.isPending id).toNat + (d.late.map (·.1)).count id + h.cancelled.count id
      + h.answered.count id
  heard {x : RequestId × Outcome} : x ∈ d.responses → x.1 ∈ h.asked
  responding : d.responses ≠ [] → d.phase = .intake ∨ d.phase = .work
  lateness : d.late ≠ [] → d.phase = .work

namespace Ledger

variable {h : History κ} {d d' : Desk κ} {x : Happening κ}

theorem fresh (types : Registry) : Ledger ([] : History κ) (Moment.fresh types).desk where
  asked := rfl
  balance _ := rfl
  heard hx := absurd hx List.not_mem_nil
  responding hr := absurd rfl hr
  lateness hr := absurd rfl hr

theorem nodup_asked (hl : Ledger h d) : h.asked.Nodup := by
  rw [hl.asked]
  refine List.nodup_range.map fun m n he => ?_
  have hs := RequestId.ofNat_injective he
  omega

theorem next_new (hl : Ledger h d) : RequestId.ofNat (d.queries.issued + 1) ∉ h.asked := by
  rw [hl.asked, List.mem_map]
  rintro ⟨n, hn, he⟩
  have hs := RequestId.ofNat_injective he
  have hr := List.mem_range.mp hn
  omega

theorem asked_of_pending (hl : Ledger h d) {id : RequestId}
    (hp : d.queries.isPending id = true) : id ∈ h.asked := by
  have hb := hl.balance id
  rw [hp] at hb
  apply List.count_pos_iff.mp
  rw [hb, Bool.toNat_true]
  omega

theorem asked_of_late (hl : Ledger h d) {id : RequestId} (hm : id ∈ d.late.map (·.1)) :
    id ∈ h.asked := by
  have hb := hl.balance id
  have hc := List.count_pos_iff.mpr hm
  apply List.count_pos_iff.mp
  omega

theorem asked_of_answered (hl : Ledger h d) {id : RequestId} (hm : id ∈ h.answered) :
    id ∈ h.asked := by
  have hb := hl.balance id
  have hc := List.count_pos_iff.mpr hm
  apply List.count_pos_iff.mp
  omega

theorem unasked (hl : Ledger h d) {id : RequestId} (ha : id ∉ h.asked) :
    d.queries.isPending id = false := by
  rw [← Bool.not_eq_true]
  exact fun hp => ha (hl.asked_of_pending hp)

theorem late_nil (hl : Ledger h d) (hp : d.phase ≠ .work) : d.late = [] := by
  by_contra hn
  exact hp (hl.lateness hn)

theorem count_concat {α β : Type} [DecidableEq β] (f : α → Option β) (as : List α) (a : α)
    (b : β) : ((as ++ [a]).filterMap f).count b = (as.filterMap f).count b
      + (f a).toList.count b := by
  rw [filterMap_concat, List.count_append]

theorem asked_step (hl : Ledger h d) (hx : d.Step x d') :
    (h ++ [x] : History κ).asked =
      (List.range d'.queries.issued).map fun n => RequestId.ofNat (n + 1) := by
  have ha := hl.asked
  rw [History.asked] at ha
  rw [History.asked, filterMap_concat, ha]
  cases hx with
  | idle hi =>
    rw [hi.asked]
    exact List.append_nil _
  | ask query payload code hp =>
    have hi : (d.queries.issue query payload code).2.issued = d.queries.issued + 1 := rfl
    rw [hi, List.range_succ, List.map_append]
    rfl
  | lapse now timeout hp hi hr =>
    rw [Queries.expire_issued]
    exact List.append_nil _
  | _ => exact List.append_nil _

theorem cancelled?_cancel (q : Queries κ) (id : RequestId) :
    (Happening.act (.cancel id) (q.cancel id).1 : Happening κ).cancelled? =
      if q.isPending id then some id else none := by
  simp only [Queries.cancel]
  cases q.isPending id <;> rfl

theorem balance_step (hl : Ledger h d) (hx : d.Step x d') (id : RequestId) :
    (h ++ [x] : History κ).asked.count id =
      (d'.queries.isPending id).toNat + (d'.late.map (·.1)).count id
        + (h ++ [x] : History κ).cancelled.count id
        + (h ++ [x] : History κ).answered.count id := by
  have hb := hl.balance id
  simp only [History.asked, History.cancelled, History.answered, count_concat] at hb ⊢
  -- A step adds a query on both sides, or moves it from one count on the right to another.
  cases hx with
  | idle hi =>
    rw [hi.asked, hi.cancelled, hi.answered, hb]
    rfl
  | ask query payload code hp =>
    have hn := hl.unasked hl.next_new
    have ha : (Happening.act (.ask query payload code)
        (d.queries.issue query payload code).1 : Happening κ).asked? =
          some (RequestId.ofNat (d.queries.issued + 1)) := rfl
    rw [Queries.issue_isPending, ha, Option.toList_some, List.count_singleton]
    by_cases he : RequestId.ofNat (d.queries.issued + 1) = id
    · subst he
      rw [hn, Bool.toNat_false] at hb
      rw [decide_eq_true rfl, Bool.true_or, Bool.toNat_true, if_pos (beq_self_eq_true _)]
      simp only [Happening.cancelled?, Happening.answered?, Option.toList_none, List.count_nil]
      omega
    · rw [decide_eq_false he, Bool.false_or, if_neg (by simpa using he)]
      simp only [Happening.cancelled?, Happening.answered?, Option.toList_none, List.count_nil]
      omega
  | cancel j hp =>
    rw [Queries.cancel_isPending, cancelled?_cancel]
    simp only [Happening.asked?, Happening.answered?, Option.toList_none, List.count_nil]
    by_cases he : j = id
    · subst he
      rw [decide_eq_false (not_not_intro rfl), Bool.false_and, Bool.toNat_false]
      cases hj : d.queries.isPending j with
      | true =>
        rw [hj, Bool.toNat_true] at hb
        rw [if_pos rfl, Option.toList_some, List.count_singleton_self]
        omega
      | false =>
        rw [hj, Bool.toNat_false] at hb
        rw [if_neg Bool.false_ne_true, Option.toList_none, List.count_nil]
        omega
    · have hc : (if d.queries.isPending j then some j else none).toList.count id = 0 := by
        split
        · rw [Option.toList_some, List.count_singleton, if_neg (by simpa using he)]
        · rfl
      rw [decide_eq_true he, Bool.true_and, hc]
      omega
  | @answer j code o rs hp hi hq =>
    obtain ⟨p, hg, _⟩ := (d.queries.resolve_eq_some j).mp hq
    have hj : d.queries.isPending j = true := Table.contains_of_get? hg
    rw [Queries.resolve_isPending]
    simp only [Happening.asked?, Happening.cancelled?, Happening.answered?, Option.toList_none,
      Option.toList_some, List.count_nil, List.count_singleton]
    by_cases he : j = id
    · subst he
      rw [hj, Bool.toNat_true] at hb
      rw [decide_eq_false (not_not_intro rfl), Bool.false_and, Bool.toNat_false,
        if_pos (beq_self_eq_true _)]
      omega
    · rw [decide_eq_true he, Bool.true_and, if_neg (by simpa using he)]
      omega
  | lapse now timeout hp hi hr =>
    rw [hr, List.map_nil, List.count_nil] at hb
    rw [Queries.expire_isPending, (d.queries.expire_nodup now timeout).count]
    simp only [Happening.asked?, Happening.cancelled?, Happening.answered?, Option.toList_none,
      List.count_nil]
    by_cases hm : id ∈ (d.queries.expire now timeout).1.map (·.1)
    · rw [d.queries.pending_of_expire id now timeout hm, Bool.toNat_true] at hb
      rw [decide_eq_false (not_not_intro hm), Bool.false_and, Bool.toNat_false, if_pos hm]
      omega
    · rw [decide_eq_true hm, Bool.true_and, if_neg hm]
      omega
  | @timeOut j code late hp hr =>
    rw [hr, List.map_cons, List.count_cons] at hb
    dsimp only at hb
    simp only [Happening.asked?, Happening.cancelled?, Happening.answered?, Option.toList_none,
      Option.toList_some, List.count_nil, List.count_singleton]
    omega
  | flush w batch result tick hp hi hr =>
    rw [Queries.takeOutgoing_isPending]
    exact hb
  | _ => exact hb

theorem heard_step (hl : Ledger h d) (hx : d.Step x d') {y : RequestId × Outcome}
    (hy : y ∈ d'.responses) : y.1 ∈ (h ++ [x] : History κ).asked := by
  rw [History.asked, filterMap_concat]
  apply List.mem_append_left
  cases hx with
  | hear frame hp =>
    obtain hy | hy := List.mem_append.mp hy
    · exact hl.heard hy
    · apply hl.asked_of_pending
      rw [Desk.hear] at hy
      split at hy
      · split at hy
        · rename_i hq
          rw [List.mem_singleton.mp hy]
          exact hq
        · cases hy
      · cases hy
  | lose hp => cases hy
  | drop hp hi hq => exact hl.heard (hi ▸ .tail _ hy)
  | answer hp hi hq => exact hl.heard (hi ▸ .tail _ hy)
  | _ => exact hl.heard hy

theorem step (hl : Ledger h d) (hx : d.Step x d') : Ledger (h ++ [x]) d' := by
  refine ⟨hl.asked_step hx, hl.balance_step hx, hl.heard_step hx, ?_, ?_⟩
  · cases hx with
    | begin hp => exact fun _ => .inl rfl
    | hear frame hp => exact fun _ => .inl hp
    | lose hp => exact fun hr => absurd rfl hr
    | gather hp => exact fun _ => .inr rfl
    | drop hp hi hq => exact fun _ => .inr hp
    | answer hp hi hq => exact fun _ => .inr hp
    | flush w batch result tick hp hi hr => exact fun hn => absurd hi hn
    | _ => exact hl.responding
  · cases hx with
    | begin hp => exact fun hr => absurd (hl.late_nil (by simp [hp])) hr
    | lose hp => exact fun hr => absurd (hl.late_nil (by simp [hp])) hr
    | gather hp => exact fun _ => rfl
    | lapse now timeout hp hi hr => exact fun _ => hp
    | timeOut hp hr => exact fun _ => hp
    | flush w batch result tick hp hi hr => exact fun hn => absurd hr hn
    | _ => exact hl.lateness

end Ledger

theorem find?_append {α β : Type} [DecidableEq α] (a : α) (xs ys : List (α × β)) :
    find? a (xs ++ ys) = (find? a xs).or (find? a ys) := by
  induction xs with
  | nil => rfl
  | cons x xs ih =>
    obtain ⟨b, y⟩ := x
    rw [List.cons_append, find?, find?, ih]
    split <;> rfl

/-- What the host has said about the queries that are under way. -/
structure Heard (h : History κ) (d : Desk κ) : Prop where
  first {id : RequestId} : d.phase ≠ .over → d.queries.isPending id = true →
    h.response? id = find? id d.responses
  late {id : RequestId} : id ∈ d.late.map (·.1) → h.response? id = none

namespace Heard

variable {h : History κ} {d d' : Desk κ} {x : Happening κ}

theorem fresh (types : Registry) : Heard ([] : History κ) (Moment.fresh types).desk where
  first _ hq := absurd hq Bool.false_ne_true
  late hm := absurd hm List.not_mem_nil

theorem response?_unasked {id : RequestId} (ha : id ∉ h.asked) : h.response? id = none := by
  rcases List.eq_nil_or_concat h with rfl | ⟨g, x, rfl⟩
  · rfl
  · rw [List.concat_eq_append, History.asked, filterMap_concat, List.mem_append, not_or] at ha
    rw [List.concat_eq_append, History.response?_concat]
    exact if_neg ha.1

theorem response?_silent {id : RequestId} (hx : x.response? id = none) :
    (h ++ [x] : History κ).response? id = h.response? id := by
  rw [History.response?_concat, hx, Option.or_none]
  split
  · rfl
  · rename_i ha
    exact (response?_unasked ha).symm

theorem find?_hear {q : Queries κ} {id : RequestId} (hq : q.isPending id = true)
    (frame : String) :
    find? id (Desk.hear q frame) = (Happening.hear frame : Happening κ).response? id := by
  rw [Desk.hear, Happening.response?]
  cases HostMessage.parse frame.toList with
  | error fault => rfl
  | ok message =>
    cases message with
    | event name entity payload => rfl
    | response request payload error =>
      by_cases he : request = id
      · subst he
        simp only [if_pos hq, if_true]
        exact if_pos rfl
      · simp only [if_neg he]
        split
        · rw [find?, if_neg he]
          rfl
        · rfl

theorem step (hh : Heard h d) (hl : Ledger h d) (hx : d.Step x d') : Heard (h ++ [x]) d' := by
  refine ⟨fun {id} ho hq => ?_, fun {id} hm => ?_⟩
  · cases hx with
    | idle hi =>
      rw [response?_silent (hi.response id)]
      exact hh.first ho hq
    | ask query payload code hp =>
      rw [response?_silent rfl]
      rw [Queries.issue_isPending, Bool.or_eq_true, decide_eq_true_eq] at hq
      obtain rfl | hq := hq
      · rw [response?_unasked hl.next_new, eq_comm, find?_eq_none]
        rintro y hy he
        exact hl.next_new (he ▸ hl.heard hy)
      · exact hh.first ho hq
    | cancel j hp =>
      rw [response?_silent rfl]
      rw [Queries.cancel_isPending, Bool.and_eq_true] at hq
      exact hh.first ho hq.2
    | begin hp =>
      rw [response?_silent rfl]
      exact hh.first (by simp [hp]) hq
    | hear frame hp =>
      rw [History.response?_concat, if_pos (hl.asked_of_pending hq), find?_append,
        find?_hear hq, hh.first ho hq]
    | lose hp => exact absurd rfl ho
    | gather hp =>
      rw [response?_silent rfl]
      exact hh.first (by simp [hp]) hq
    -- A message that is dropped was for another query: this one is pending.
    | @drop j o rs hp hi hj =>
      have he : j ≠ id := by
        rintro rfl
        exact Bool.false_ne_true (hj.symm.trans hq)
      rw [response?_silent rfl, hh.first ho hq, hi, find?, if_neg he]
    | @answer j code o rs hp hi hj =>
      rw [Queries.resolve_isPending, Bool.and_eq_true, decide_eq_true_eq] at hq
      rw [response?_silent rfl, hh.first ho hq.2, hi, find?, if_neg hq.1]
    | lapse now timeout hp hi hr =>
      rw [Queries.expire_isPending, Bool.and_eq_true] at hq
      rw [response?_silent rfl]
      exact hh.first ho hq.2
    | timeOut hp hr =>
      rw [response?_silent rfl]
      exact hh.first ho hq
    | flush w batch result tick hp hi hr =>
      rw [Queries.takeOutgoing_isPending] at hq
      rw [response?_silent rfl]
      exact hh.first (by simp [hp]) hq
  · cases hx with
    | idle hi =>
      rw [response?_silent (hi.response id)]
      exact hh.late hm
    | hear frame hp =>
      rw [hl.late_nil (by simp [hp])] at hm
      cases hm
    | lapse now timeout hp hi hr =>
      rw [response?_silent rfl,
        hh.first (by simp [hp]) (d.queries.pending_of_expire id now timeout hm), hi]
      rfl
    | timeOut hp hr =>
      rw [response?_silent rfl]
      exact hh.late (hr ▸ .tail _ hm)
    | _ =>
      rw [response?_silent rfl]
      exact hh.late hm

end Heard

def History.AskedWith (h : History κ) (id : RequestId) (code : κ) : Prop :=
  ∃ query payload, .act (.ask query payload code) id ∈ h

/-- The code that waits for an answer is that of the query. -/
structure Coded (h : History κ) (d : Desk κ) : Prop where
  pending {id : RequestId} {p : Pending κ} : d.queries.pending.get? id = some p →
    h.AskedWith id p.callback
  late {id : RequestId} {code : κ} : (id, code) ∈ d.late → h.AskedWith id code

namespace Coded

variable {h : History κ} {d d' : Desk κ} {x : Happening κ}

theorem fresh (types : Registry) : Coded ([] : History κ) (Moment.fresh types).desk where
  pending hg := absurd hg.symm (Option.some_ne_none _)
  late hm := absurd hm List.not_mem_nil

theorem concat {id : RequestId} {code : κ} (ha : h.AskedWith id code) (x : Happening κ) :
    (h ++ [x] : History κ).AskedWith id code := by
  obtain ⟨query, payload, hm⟩ := ha
  exact ⟨query, payload, List.mem_append_left _ hm⟩

theorem step (hc : Coded h d) (hx : d.Step x d') : Coded (h ++ [x]) d' := by
  refine ⟨fun {id p} hg => ?_, fun {id code} hm => ?_⟩
  · cases hx with
    | ask query payload code hp =>
      rw [Queries.issue_get?] at hg
      split at hg
      · rename_i he
        obtain rfl := Option.some.inj hg
        exact ⟨query, payload, List.mem_append_right _ (he ▸ .head _)⟩
      · exact concat (hc.pending hg) _
    | cancel j hp =>
      rw [Queries.cancel_get?] at hg
      split at hg
      · cases hg
      · exact concat (hc.pending hg) _
    | answer hp hi hq =>
      rw [Queries.resolve_get?] at hg
      split at hg
      · cases hg
      · exact concat (hc.pending hg) _
    | lapse now timeout hp hi hr =>
      rw [Queries.expire_get?] at hg
      split at hg
      · cases hg
      · exact concat (hc.pending hg) _
    | flush w batch result tick hp hi hr =>
      rw [Queries.takeOutgoing_get?, Option.map_eq_some_iff] at hg
      obtain ⟨p', hg, rfl⟩ := hg
      split <;> exact concat (hc.pending hg) _
    | _ => exact concat (hc.pending hg) _
  · cases hx with
    | lapse now timeout hp hi hr =>
      obtain ⟨_, p, _, hg, rfl, _⟩ := (d.queries.mem_expire id now timeout).mp hm
      exact concat (hc.pending hg) _
    | timeOut hp hr => exact concat (hc.late (hr ▸ .tail _ hm)) _
    | _ => exact concat (hc.late hm) _

end Coded

/-- A query that was asked in the tick that is under way is out of reach of all that could end it
in this tick. -/
structure Recent (h : History κ) (d : Desk κ) : Prop where
  intake : d.phase = .intake → (h.since Happening.isBegin).asked = []
  unsent {id : RequestId} {p : Pending κ} : d.phase = .work →
    id ∈ (h.since Happening.isBegin).asked → d.queries.pending.get? id = some p → p.sent = none
  unheard {id : RequestId} : d.phase = .work → id ∈ (h.since Happening.isBegin).asked →
    id ∉ d.responses.map (·.1)
  timely {id : RequestId} : d.phase = .work → id ∈ (h.since Happening.isBegin).asked →
    id ∉ d.late.map (·.1)
  unanswered {id : RequestId} : id ∈ (h.since Happening.isBegin).asked →
    id ∉ (h.since Happening.isBegin).answered

namespace Recent

variable {h : History κ} {d d' : Desk κ} {x : Happening κ}

theorem fresh (types : Registry) : Recent ([] : History κ) (Moment.fresh types).desk where
  intake _ := rfl
  unsent _ ha := absurd ha List.not_mem_nil
  unheard _ ha := absurd ha List.not_mem_nil
  timely _ ha := absurd ha List.not_mem_nil
  unanswered ha := absurd ha List.not_mem_nil

theorem asks_new (hl : Ledger h d) (hx : d.Step x d') {id : RequestId}
    (ha : x.asked? = some id) : id ∉ h.asked := by
  cases hx with
  | idle hi =>
    rw [hi.asked] at ha
    cases ha
  | ask query payload code hp =>
    obtain rfl := Option.some.inj ha
    exact hl.next_new
  | _ => cases ha

theorem answers_due (hx : d.Step x d') {id : RequestId} (ha : x.answered? = some id) :
    d.phase = .work ∧ (id ∈ d.responses.map (·.1) ∨ id ∈ d.late.map (·.1)) := by
  cases hx with
  | idle hi =>
    rw [hi.answered] at ha
    cases ha
  | answer hp hi hq =>
    obtain rfl := Option.some.inj ha
    exact ⟨hp, .inl (hi ▸ .head _)⟩
  | timeOut hp hi =>
    obtain rfl := Option.some.inj ha
    exact ⟨hp, .inr (hi ▸ .head _)⟩
  | _ => cases ha

theorem asked_earlier {id : RequestId}
    (hs : id ∈ (h.since Happening.isBegin).asked ∨ x.asked? = some id) (hn : x.asked? = none) :
    id ∈ (h.since Happening.isBegin).asked := by
  rw [hn] at hs
  exact hs.resolve_right (Option.some_ne_none id).symm

theorem working (hr : Recent h d) (hx : d.Step x d') (hp : d'.phase = .work) {id : RequestId}
    (hm : id ∈ ((h ++ [x] : History κ).since Happening.isBegin).asked) :
    d.phase = .work ∧ (id ∈ (h.since Happening.isBegin).asked ∨ x.asked? = some id) := by
  have hs := (History.mem_since_concat hm).2
  cases hx with
  | begin => cases hp
  | lose => cases hp
  | gather hi =>
    have hm := asked_earlier hs rfl
    rw [hr.intake hi] at hm
    cases hm
  | flush w batch result tick hw => exact ⟨hw, hs⟩
  | _ => exact ⟨hp, hs⟩

theorem intake_step (hr : Recent h d) (hx : d.Step x d') (hp : d'.phase = .intake) :
    ((h ++ [x] : History κ).since Happening.isBegin).asked = [] := by
  rw [List.eq_nil_iff_forall_not_mem]
  intro id hm
  obtain ⟨hb, hs⟩ := History.mem_since_concat hm
  have none (hi : d.phase = .intake) (ha : x.asked? = none) : False := by
    have hm := asked_earlier hs ha
    rw [hr.intake hi] at hm
    cases hm
  cases hx with
  | idle hi => exact none hp hi.asked
  | ask query payload code hn => exact hn hp
  | cancel j hn => exact hn hp
  | begin => cases hb
  | hear frame hi => exact none hi rfl
  | lose => cases hp
  | gather => cases hp
  | flush w batch result tick hw => split at hp <;> cases hp
  | drop hw => simp [hw] at hp
  | answer hw => simp [hw] at hp
  | lapse now timeout hw => simp [hw] at hp
  | timeOut hw => simp [hw] at hp

theorem unsent_step (hr : Recent h d) (hx : d.Step x d') {id : RequestId} {p : Pending κ}
    (hp : d'.phase = .work)
    (hm : id ∈ ((h ++ [x] : History κ).since Happening.isBegin).asked)
    (hg : d'.queries.pending.get? id = some p) : p.sent = none := by
  obtain ⟨hw, hs⟩ := hr.working hx hp hm
  cases hx with
  | idle hi =>
    exact hr.unsent hw (asked_earlier hs hi.asked) hg
  | ask query payload code hn =>
    rw [Queries.issue_get?] at hg
    split at hg
    · obtain rfl := Option.some.inj hg
      rfl
    · rename_i he
      exact hr.unsent hw (hs.resolve_right fun ha => he (Option.some.inj ha)) hg
  | cancel j hn =>
    rw [Queries.cancel_get?] at hg
    split at hg
    · cases hg
    · exact hr.unsent hw (asked_earlier hs rfl) hg
  | answer hw hi hq =>
    rw [Queries.resolve_get?] at hg
    split at hg
    · cases hg
    · exact hr.unsent hw (asked_earlier hs rfl) hg
  | lapse now timeout hw hi hl =>
    rw [Queries.expire_get?] at hg
    split at hg
    · cases hg
    · exact hr.unsent hw (asked_earlier hs rfl) hg
  | flush w batch result tick => split at hp <;> cases hp
  | begin => cases hp
  | lose => cases hp
  | _ => exact hr.unsent hw (asked_earlier hs rfl) hg

theorem unheard_step (hr : Recent h d) (hl : Ledger h d) (hx : d.Step x d') {id : RequestId}
    (hp : d'.phase = .work)
    (hm : id ∈ ((h ++ [x] : History κ).since Happening.isBegin).asked) :
    id ∉ d'.responses.map (·.1) := by
  obtain ⟨hw, hs⟩ := hr.working hx hp hm
  have hd : id ∉ d.responses.map (·.1) := by
    obtain hs | hs := hs
    · exact hr.unheard hw hs
    · rw [List.mem_map]
      rintro ⟨y, hy, rfl⟩
      exact asks_new hl hx hs (hl.heard hy)
  cases hx with
  | hear frame hi => simp [hw] at hi
  | drop hw hi =>
    rw [hi] at hd
    exact fun hy => hd (.tail _ hy)
  | answer hw hi =>
    rw [hi] at hd
    exact fun hy => hd (.tail _ hy)
  | lose => cases hp
  | _ => exact hd

theorem timely_step (hr : Recent h d) (hl : Ledger h d) (hx : d.Step x d') {id : RequestId}
    (hp : d'.phase = .work)
    (hm : id ∈ ((h ++ [x] : History κ).since Happening.isBegin).asked) :
    id ∉ d'.late.map (·.1) := by
  obtain ⟨hw, hs⟩ := hr.working hx hp hm
  have hd : id ∉ d.late.map (·.1) := by
    obtain hs | hs := hs
    · exact hr.timely hw hs
    · exact fun hy => asks_new hl hx hs (hl.asked_of_late hy)
  cases hx with
  -- Only a query that was sent can be late, and one of this tick is not sent yet.
  | lapse now timeout hw hi =>
    intro hy
    obtain ⟨_, p, sent, hg, hn, _⟩ := (d.queries.mem_expired id now timeout).mp hy
    rw [hr.unsent hw (asked_earlier hs rfl) hg] at hn
    cases hn
  | timeOut hw hi =>
    rw [hi] at hd
    exact fun hy => hd (.tail _ hy)
  | _ => exact hd

theorem step (hr : Recent h d) (hl : Ledger h d) (hx : d.Step x d') : Recent (h ++ [x]) d' := by
  refine ⟨hr.intake_step hx, hr.unsent_step hx, hr.unheard_step hl hx, hr.timely_step hl hx,
    fun {id} ha hb => ?_⟩
  obtain ha | ha := (History.mem_since_concat ha).2
  · obtain hb | hb := (History.mem_since_concat hb).2
    · exact hr.unanswered ha hb
    · obtain ⟨hw, hd | hd⟩ := answers_due hx hb
      · exact hr.unheard hw ha hd
      · exact hr.timely hw ha hd
  · apply asks_new hl hx ha
    obtain hb | hb := (History.mem_since_concat hb).2
    · have hs := (h.since_suffix Happening.isBegin).sublist
      exact hl.asked_of_answered ((hs.filterMap Happening.answered?).subset hb)
    · obtain ⟨_, hd | hd⟩ := answers_due hx hb
      · obtain ⟨y, hy, rfl⟩ := List.mem_map.mp hd
        exact hl.heard hy
      · exact hl.asked_of_late hd

end Recent

namespace Moment

variable {m : Moment κ} {h : History κ} {types : Registry}

theorem Trail.ledger (hh : Trail (.fresh types) h m) : Ledger h m.desk := by
  induction hh with
  | nil => exact .fresh types
  | snoc hm hx ih => exact ih.step hx.desk

theorem Trail.heard (hh : Trail (.fresh types) h m) : Heard h m.desk := by
  induction hh with
  | nil => exact .fresh types
  | snoc hm hx ih => exact ih.step hm.ledger hx.desk

theorem Trail.coded (hh : Trail (.fresh types) h m) : Coded h m.desk := by
  induction hh with
  | nil => exact .fresh types
  | snoc hm hx ih => exact ih.step hx.desk

theorem Trail.recent (hh : Trail (.fresh types) h m) : Recent h m.desk := by
  induction hh with
  | nil => exact .fresh types
  | snoc hm hx ih => exact ih.step hm.ledger hx.desk

theorem Trail.answer (hh : Trail (.fresh types) h m) {m' : Moment κ} {id : RequestId} {code : κ}
    {o : Outcome} (hx : m.desk.Step (.answer id code o) m'.desk) :
    o = (h.response? id).getD .timedOut ∧ h.AskedWith id code := by
  generalize m'.desk = d' at hx
  cases hx with
  | idle hi => cases hi.answered
  | answer hp hi hq =>
    obtain ⟨p, hg, rfl⟩ := (m.desk.queries.resolve_eq_some id).mp hq
    refine ⟨?_, hh.coded.pending hg⟩
    rw [hh.heard.first (by simp [hp]) (Table.contains_of_get? hg), hi, find?, if_pos rfl]
    rfl
  | timeOut hp hl =>
    have hm : (id, code) ∈ m.desk.late := hl ▸ .head _
    refine ⟨?_, hh.coded.late hm⟩
    rw [hh.heard.late (List.mem_map_of_mem hm)]
    rfl

end Moment

namespace Session

theorem query_balance {s : Session κ σ} {types : Registry} {h : History κ}
    (hh : Moment.Trail (.fresh types) h s.moment) (id : RequestId) :
    (s.world.queries.isPending id).toNat + h.cancelled.count id + h.answered.count id =
      if id ∈ h.asked then 1 else 0 := by
  have hl := hh.ledger
  have hb := hl.balance id
  rw [hl.late_nil s.moment_idle.2, List.map_nil, List.count_nil, hl.nodup_asked.count] at hb
  exact hb.symm

/-- Every query is asked under a name of its own and ends at most once. Its code is called with
what the host said first, and only if the host said nothing, with the news that its time is up. No
code is called for a query that was taken back, nor in the tick in which the query was asked. -/
theorem queries_end_once (b : Behaviour κ σ) (config : Config) (types : Registry) (memory : σ)
    (moves : List (Move κ σ)) :
    let s := start config ({ types } : World κ) memory
    let h := s.history b moves
    h.asked.Nodup ∧
    (∀ id, ((s.after b moves).world.queries.isPending id).toNat + h.cancelled.count id
      + h.answered.count id = if id ∈ h.asked then 1 else 0) ∧
    (∀ id more, id ∈ h.asked → (s.after b moves).world.queries.isPending id = false →
      (s.after b (moves ++ more)).world.queries.isPending id = false) ∧
    (∀ (g : History κ) id code o g', h = g ++ .answer id code o :: g' →
      o = (g.response? id).getD .timedOut ∧ g.AskedWith id code ∧ id ∉ g.cancelled ∧
        id ∉ g.answered) ∧
    ∀ (g : History κ) g', h = g ++ g' → ∀ id ∈ (g.since Happening.isBegin).asked,
      id ∉ (g.since Happening.isBegin).answered := by
  intro s h
  have hh : Moment.Trail (.fresh types) h (s.after b moves).moment :=
    start_trail b config types memory moves
  have hb := query_balance hh
  refine ⟨hh.ledger.nodup_asked, hb, fun id more ha hq => ?_, fun g id code o g' he => ?_,
    fun g g' he id => ?_⟩
  · have hn := hb id
    have hm : Moment.Trail (.fresh types) (s.history b (moves ++ more))
        (s.after b (moves ++ more)).moment := start_trail b config types memory (moves ++ more)
    have hs : s.history b (moves ++ more) = h ++ (s.after b moves).history b more :=
      history_append b s moves more
    have hm := query_balance hm id
    rw [hs] at hm
    rw [if_pos ha, hq, Bool.toNat_false] at hn
    simp only [History.asked, History.cancelled, History.answered, List.filterMap_append,
      List.count_append] at ha hn hm
    rw [if_pos (List.mem_append_left _ ha)] at hm
    cases hp : (s.after b (moves ++ more)).world.queries.isPending id with
    | false => rfl
    | true =>
      rw [hp, Bool.toNat_true] at hm
      omega
  · have hl : (if id ∈ h.asked then 1 else 0) ≤ 1 := by split <;> omega
    rw [← hb id] at hl
    rw [he] at hh hl
    obtain ⟨m, m', hm, hx, _⟩ := hh.split_at
    obtain ⟨ho, hc⟩ := hm.answer hx.desk
    simp only [History.cancelled, History.answered, List.filterMap_append, List.filterMap_cons,
      Happening.answered?, List.count_append, List.count_cons_self] at hl
    refine ⟨ho, hc, fun hm => ?_, fun hm => ?_⟩
    · have hp := List.count_pos_iff.mpr hm
      rw [History.cancelled] at hp
      omega
    · have hp := List.count_pos_iff.mpr hm
      rw [History.answered] at hp
      omega
  · rw [he] at hh
    obtain ⟨m, hm, _⟩ := hh.split g g' rfl
    exact hm.recent.unanswered

theorem queries_end_once_answered :
    let s := start {} ({ types := ∅ } : World Unit) ()
    let moves : List (Move Unit Unit) := [.act (.ask "health" .null ()), .tick ⟨0⟩,
      .send "\x7b\"type\":\"queryResponse\",\"requestId\":\"q1\"\x7d", .tick ⟨0⟩]
    (s.history .idle moves).answered = [⟨"q1"⟩] ∧
      ∀ more, (s.after .idle (moves ++ more)).world.queries.isPending ⟨"q1"⟩ = false := by
  intro s moves
  have ha : ⟨"q1"⟩ ∈ (s.history .idle moves).asked := by decide +kernel
  have hq : (s.after .idle moves).world.queries.isPending ⟨"q1"⟩ = false := by decide +kernel
  have hn : (s.history .idle moves).answered = [⟨"q1"⟩] := by decide +kernel
  obtain ⟨_, _, hm, _⟩ := queries_end_once .idle {} ∅ () moves
  exact ⟨hn, fun more => hm ⟨"q1"⟩ more ha hq⟩

end Session

end Diorama
