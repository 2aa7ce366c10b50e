import Diorama.Proofs.Queue

namespace Diorama

variable {κ σ : Type}

namespace History

variable {h : History κ} {id : RequestId} {o : Outcome}

theorem response?_append (ha : id ∈ h.asked) (h' : History κ) :
    (h ++ h' : History κ).response? id =
      (h.response? id).or (h'.findSome? (Happening.response? id)) := by
  induction h with
  | nil => cases ha
  | cons x h ih =>
    simp only [response?, List.cons_append, List.dropWhile_cons] at ih ⊢
    by_cases hx : x.asked? = some id
    · simp [hx, List.findSome?_append]
    · obtain ⟨y, hy, he⟩ := List.mem_filterMap.mp ha
      obtain rfl | hy := List.mem_cons.mp hy
      · exact absurd he hx
      · simpa [hx] using ih (List.mem_filterMap.mpr ⟨y, hy, he⟩)

theorem heard_append (hr : h.response? id = some o) (h' : History κ) :
    (h ++ h' : History κ).response? id = some o := by
  have ha : id ∈ h.asked := by
    by_contra hn
    rw [Heard.response?_unasked hn] at hr
    cases hr
  rw [response?_append ha, hr]
  rfl

end History

/-- What is known of the queries that wait to be sent. -/
structure Queued (h : History κ) (d : Desk κ) : Prop where
  awaited {r : Request} : r ∈ d.queries.outgoing → h.response? r.id = none →
    d.queries.isPending r.id = true
  unsent {r : Request} {p : Pending κ} : r ∈ d.queries.outgoing →
    d.queries.pending.get? r.id = some p → p.sent = none

namespace Queued

variable {h : History κ} {d d' : Desk κ} {x : Happening κ}

theorem fresh (types : Registry) : Queued ([] : History κ) (Moment.fresh types).desk where
  awaited hr := absurd hr List.not_mem_nil
  unsent hr := absurd hr List.not_mem_nil

theorem unheard {id : RequestId} (hn : (h ++ [x] : History κ).response? id = none) :
    h.response? id = none := by
  by_contra hr
  obtain ⟨o, hr⟩ := Option.ne_none_iff_exists'.mp hr
  rw [History.heard_append hr] at hn
  cases hn

theorem awaited_step (hq : Queued h d) (hh : Heard h d) (hx : d.Step x d') {r : Request}
    (hr : r ∈ d'.queries.outgoing) (hn : (h ++ [x] : History κ).response? r.id = none) :
    d'.queries.isPending r.id = true := by
  have before (hr : r ∈ d.queries.outgoing) : d.queries.isPending r.id = true :=
    hq.awaited hr (unheard hn)
  cases hx with
  | ask query payload code hp =>
    rw [Queries.issue_isPending, Bool.or_eq_true]
    obtain hr | hr := List.mem_append.mp hr
    · exact .inr (before hr)
    · rw [List.mem_singleton.mp hr]
      exact .inl (decide_eq_true rfl)
  | cancel id hp =>
    obtain ⟨hr, hi⟩ := List.mem_filter.mp hr
    rw [Queries.cancel_isPending, before hr, Bool.and_true]
    simpa using Ne.symm (of_decide_eq_true hi)
  | @answer id code o rs hp hi hc =>
    rw [Queries.resolve_isPending, before hr, Bool.and_true, decide_eq_true_iff]
    -- The host has said something about the query that is answered.
    rintro rfl
    obtain ⟨p, hg, _⟩ := (d.queries.resolve_eq_some r.id).mp hc
    have hf := hh.first (by simp [hp]) (Table.contains_of_get? hg)
    rw [unheard hn, hi, find?, if_pos rfl] at hf
    cases hf
  | lapse now timeout hp hi hl =>
    rw [Queries.expire_outgoing] at hr
    rw [Queries.expire_isPending, before hr, Bool.and_true, decide_eq_true_iff,
      Queries.mem_expired]
    rintro ⟨_, p, sent, hg, hs, _⟩
    rw [hq.unsent hr hg] at hs
    cases hs
  | flush w batch result tick hp hi hl => cases hr
  | _ => exact before hr

theorem unsent_step (hq : Queued h d) (hx : d.Step x d') {r : Request} {p : Pending κ}
    (hr : r ∈ d'.queries.outgoing) (hg : d'.queries.pending.get? r.id = some p) :
    p.sent = none := by
  cases hx with
  | ask query payload code hp =>
    rw [Queries.issue_get?] at hg
    split at hg
    · obtain rfl := Option.some.inj hg
      rfl
    · rename_i hi
      refine hq.unsent ((List.mem_append.mp hr).resolve_right fun hr => hi ?_) hg
      rw [List.mem_singleton.mp hr]
  | cancel id hp =>
    rw [Queries.cancel_get?] at hg
    split at hg
    · cases hg
    · exact hq.unsent (List.mem_filter.mp hr).1 hg
  | answer hp hi hc =>
    rw [Queries.resolve_get?] at hg
    split at hg
    · cases hg
    · exact hq.unsent hr hg
  | lapse now timeout hp hi hl =>
    rw [Queries.expire_outgoing] at hr
    rw [Queries.expire_get?] at hg
    split at hg
    · cases hg
    · exact hq.unsent hr hg
  | flush w batch result tick hp hi hl => cases hr
  | _ => exact hq.unsent hr hg

theorem step (hq : Queued h d) (hh : Heard h d) (hx : d.Step x d') : Queued (h ++ [x]) d' :=
  ⟨hq.awaited_step hh hx, hq.unsent_step hx⟩

end Queued

theorem Moment.Trail.queued {m : Moment κ} {h : History κ} {types : Registry}
    (hh : Trail (.fresh types) h m) : Queued h m.desk := by
  induction hh with
  | nil => exact .fresh types
  | snoc hm hx ih => exact ih.step hm.heard hx.desk

namespace Session

/-- A query that waits to be sent is pending, and pending with the tick of its batch when it was
sent, if the host did not answer before it was asked. -/
theorem queued_is_awaited (b : Behaviour κ σ) (config : Config) (types : Registry) (memory : σ)
    (moves : List (Move κ σ)) :
    let s := start config ({ types } : World κ) memory
    let u := s.after b moves
    (∀ id ∈ u.world.queries.outgoing.map (·.id), (s.history b moves).response? id = none →
      u.world.queries.isPending id = true) ∧
    ∀ dt report, (u.tick b dt).1 = .ok report →
      ∀ id ∈ (u.worked b dt).batch.queries.map (·.id),
        (s.history b (moves ++ [.tick dt])).response? id = none →
          ((u.tick b dt).2.world.queries.pending.get? id).map (·.sent) =
            some (some report.tick) := by
  intro s u
  have hh : Moment.Trail (.fresh types) (s.history b moves) u.moment :=
    start_trail b config types memory moves
  refine ⟨fun id hi hn => ?_, fun dt report hk id hi hn => ?_⟩
  · obtain ⟨r, hr, rfl⟩ := List.mem_map.mp hi
    exact hh.queued.awaited hr hn
  · rw [history_tick (isOk_of_tick hk)] at hn
    have hm := hh.trans (worked_trail (isOk_of_tick hk))
    obtain ⟨r, hr, rfl⟩ := List.mem_map.mp hi
    have hq := hm.queued.awaited hr (Queued.unheard hn)
    obtain ⟨p, hg⟩ : ∃ p, (u.worked b dt).world.queries.pending.get? r.id = some p :=
      Option.isSome_iff_exists.mp hq
    have hi : r.id ∈ (u.worked b dt).world.queries.outgoing.map (·.id) := hi
    rw [tick_queries hk, Queries.takeOutgoing_get?, hg, Option.map_some, if_pos hi]
    rfl

theorem queued_is_awaited_asked :
    let s := start {} ({ types := ∅ } : World Unit) ()
    let u := s.after .idle [.act (.ask "health" .null ())]
    u.world.queries.isPending ⟨"q1"⟩ = true ∧ ∃ report, (u.tick .idle ⟨0⟩).1 = .ok report ∧
      ((u.tick .idle ⟨0⟩).2.world.queries.pending.get? ⟨"q1"⟩).map (·.sent) =
        some (some report.tick) := by
  obtain ⟨hq, hk⟩ := queued_is_awaited .idle {} ∅ () [.act (.ask "health" .null ())]
  refine ⟨hq ⟨"q1"⟩ (by decide +kernel) (Option.isNone_iff_eq_none.mp (by decide +kernel)), ?_⟩
  obtain ⟨report, he⟩ := exists_report .idle ⟨0⟩ ((start {} ({ types := ∅ } : World Unit) ()).after
    .idle [.act (.ask "health" .null ())]) (by decide +kernel)
  exact ⟨report, he, hk ⟨0⟩ report he ⟨"q1"⟩ (by decide +kernel)
    (Option.isNone_iff_eq_none.mp (by decide +kernel))⟩

/-- A query that the host answers before it is asked goes out all the same. -/
theorem answered_query_sent :
    let s := start {} ({ types := ∅ } : World Unit) ()
    let u := s.after .idle [.act (.ask "health" .null ()),
      .send "\x7b\"type\":\"queryResponse\",\"requestId\":\"q1\"\x7d"]
    (u.tick .idle ⟨0⟩).1.isOk = true ∧
      (u.worked .idle ⟨0⟩).batch.queries.map (·.id) = [⟨"q1"⟩] ∧
      (u.worked .idle ⟨0⟩).world.queries.isPending ⟨"q1"⟩ = false ∧
      (u.tick .idle ⟨0⟩).2.world.queries.isPending ⟨"q1"⟩ = false := by
  decide +kernel

end Session

end Diorama
