import Diorama.Proofs.Queue

namespace Diorama

variable {κ σ : Type}

def Behaviour.recalling : Behaviour (Option RequestId) σ
  | some id, _, memory => .act (.cancel id) fun _ => .finish none memory .returned
  | none, _, memory => .finish none memory .returned

theorem History.split_recall (h : History κ) (id : RequestId)
    (hr : h.any (Happening.recalls id) = true) :
    ∃ reply : Bool, h = h.takeWhile (fun x => !x.recalls id)
      ++ .act (.cancel id) reply :: (h.dropWhile fun x => !x.recalls id).tail := by
  induction h with
  | nil => cases hr
  | cons x h ih =>
    cases hx : x.recalls id with
    | false =>
      rw [List.any_cons, hx, Bool.false_or] at hr
      obtain ⟨reply, hs⟩ := ih hr
      refine ⟨reply, ?_⟩
      rw [List.takeWhile_cons_of_pos (by simp [hx]), List.dropWhile_cons_of_pos (by simp [hx]),
        List.cons_append, ← hs]
    | true =>
      rw [List.takeWhile_cons_of_neg (by simp [hx]), List.dropWhile_cons_of_neg (by simp [hx])]
      cases x with
      | act a reply =>
        cases a with
        | cancel j =>
          obtain rfl : j = id := of_decide_eq_true hx
          exact ⟨reply, rfl⟩
        | _ => cases hx
      | _ => cases hx

namespace Ledger

variable {g h : History κ} {d : Desk κ} {id : RequestId}

theorem total_le (hl : Ledger h d) (id : RequestId) :
    (d.queries.isPending id).toNat + (d.late.map (·.1)).count id + h.cancelled.count id
      + h.answered.count id ≤ 1 := by
  rw [← hl.balance id]
  exact List.nodup_iff_count_le_one.mp hl.nodup_asked id

theorem not_pending_of_late (hl : Ledger h d) (hm : id ∈ d.late.map (·.1)) :
    d.queries.isPending id = false := by
  have hc := List.count_pos_iff.mpr hm
  have ht := hl.total_le id
  cases hq : d.queries.isPending id with
  | false => rfl
  | true =>
    rw [hq, Bool.toNat_true] at ht
    omega

theorem unended (hl : Ledger h d) (hq : d.queries.isPending id = true) :
    id ∉ h.cancelled ∧ id ∉ h.answered := by
  have ht := hl.total_le id
  rw [hq, Bool.toNat_true] at ht
  exact ⟨List.count_eq_zero.mp (by omega), List.count_eq_zero.mp (by omega)⟩

theorem unanswered (hl : Ledger h d) (ha : id ∈ h.asked) (hn : id ∉ h.answered) :
    d.queries.isPending id = true ∨ id ∈ d.late.map (·.1) ∨ id ∈ h.cancelled := by
  by_contra hc
  simp only [not_or, Bool.not_eq_true] at hc
  have hb := hl.balance id
  rw [hc.1, List.count_eq_zero.mpr hc.2.1, List.count_eq_zero.mpr hc.2.2,
    List.count_eq_zero.mpr hn] at hb
  exact List.count_eq_zero.mp hb ha

theorem silent (hl : Ledger (g ++ h) d) (hc : id ∈ g.cancelled) : id ∉ h.answered := by
  intro ha
  have hp := List.count_pos_iff.mpr hc
  have hq := List.count_pos_iff.mpr ha
  have ht := hl.total_le id
  simp only [History.cancelled, History.answered, List.filterMap_append, List.count_append]
    at hp hq ht
  omega

end Ledger

namespace Moment

variable {m m' : Moment κ} {g h : History κ} {x : Happening κ} {types : Registry}

theorem Trail.lapsed (hh : Trail (.fresh types) h m) (hn : m.late ≠ []) :
    .lapse ∈ h.since Happening.isBegin := by
  induction hh with
  | nil => exact absurd rfl hn
  | @snoc h m₁ m₂ x hm hx ih =>
    have earlier (hb : x.isBegin = false) (h₁ : m₁.late ≠ []) :
        .lapse ∈ (h ++ [x] : History κ).since Happening.isBegin := by
      rw [History.since_concat, hb]
      exact List.mem_append_left _ (ih h₁)
    cases hx with
    | begin hp => exact absurd (hm.ledger.late_nil (by simp [Moment.desk, hp])) hn
    | lapse timeout hp hi hl =>
      rw [History.since_concat]
      exact List.mem_append_right _ (.head _)
    | timeOut hp hl => exact earlier rfl (by simp [hl])
    | _ => exact earlier rfl hn

theorem Trail.timed_out {id : RequestId} {code : κ} (hg : Trail (.fresh types) g m)
    (hh : Trail m h m') (hm : (id, code) ∈ m.late) :
    ((id, code) ∈ m'.late ∧ ∀ x ∈ h, x.isBegin = false) ∨
      ∃ d d', h = d ++ .answer id code .timedOut :: d' ∧ ∀ x ∈ d, x.isBegin = false := by
  induction hh with
  | nil => exact .inl ⟨hm, fun x hx => absurd hx List.not_mem_nil⟩
  | @snoc h m₁ m₂ x hh hx ih =>
    obtain ⟨hl, hb⟩ | ⟨d, d', rfl, hd⟩ := ih
    · have still (hx : x.isBegin = false) (hl : (id, code) ∈ m₂.late) :
          (id, code) ∈ m₂.late ∧ ∀ y ∈ h ++ [x], y.isBegin = false := by
        refine ⟨hl, fun y hy => ?_⟩
        obtain hy | hy := List.mem_append.mp hy
        · exact hb y hy
        · exact List.mem_singleton.mp hy ▸ hx
      cases hx with
      | begin hp =>
        have hn : m₁.late = [] := (hg.trans hh).ledger.late_nil (by simp [Moment.desk, hp])
        rw [hn] at hl
        cases hl
      | lapse timeout hp hi hn =>
        rw [hn] at hl
        cases hl
      | @timeOut _ code' late hp hn =>
        rw [hn] at hl
        obtain he | hl := List.mem_cons.mp hl
        · obtain ⟨rfl, rfl⟩ := Prod.mk.inj he
          exact .inr ⟨h, [], rfl, hb⟩
        · exact .inl (still rfl hl)
      | _ => exact .inl (still rfl hl)
    · exact .inr ⟨d, d' ++ [x], by simp, hd⟩

end Moment

namespace Session

theorem moment_late {s : Session κ σ} {types : Registry} {h : History κ}
    (hh : Moment.Trail (.fresh types) h s.moment) : s.moment.late = [] :=
  hh.ledger.late_nil s.moment_idle.2

/-- The code of a query that was taken back is not called any more. The exception is a query whose
time is up, when it is taken back by code that is called because of that in the same tick. -/
theorem recalled_is_silent (b : Behaviour κ σ) (config : Config) (types : Registry) (memory : σ)
    (moves : List (Move κ σ)) :
    let h := (start config ({ types } : World κ) memory).history b moves
    ∀ (g : History κ) id reply (g' : History κ), h = g ++ .act (.cancel id) reply :: g' →
      id ∈ g.asked → id ∉ g.answered →
      id ∉ g'.answered ∨
        reply = false ∧ .lapse ∈ g.since Happening.isBegin ∧
          ∃ code d d', g' = d ++ .answer id code .timedOut :: d' ∧ ∀ x ∈ d, x.isBegin = false := by
  intro h g id reply g' hs ha hn
  have hh := start_trail b config types memory moves
  have hl := moment_late hh
  rw [show (start config ({ types } : World κ) memory).history b moves = _ from hs] at hh
  obtain ⟨m, m', hg, hx, hg'⟩ := hh.split_at
  have hr : reply = m.world.queries.isPending id ∧ m'.late = m.late := by
    cases hx with
    | act a hp => exact ⟨rfl, rfl⟩
  obtain hq | hi | hc := hg.ledger.unanswered ha hn
  · obtain rfl : reply = true := hr.1.trans hq
    rw [List.append_cons] at hh
    refine .inl (hh.ledger.silent ?_)
    rw [History.cancelled, filterMap_concat]
    exact List.mem_append_right _ (.head _)
  · obtain ⟨⟨_, code⟩, hc, rfl⟩ := List.mem_map.mp hi
    refine .inr ⟨hr.1.trans (hg.ledger.not_pending_of_late hi),
      hg.lapsed (List.ne_nil_of_mem hc), code, ?_⟩
    refine ((hg.snoc hx).timed_out hg' (hr.2 ▸ hc)).resolve_left fun hd => ?_
    rw [hl] at hd
    cases hd.1
  · exact .inl fun hd => hh.ledger.silent hc hd

theorem recalled_is_silent_unsent :
    let s := start { queryTimeoutTicks := 1 } ({ types := ∅ } : World Unit) ()
    let u := s.after .idle [.act (.ask "a" .null ()), .act (.cancel ⟨"q1"⟩)]
    ⟨"q1"⟩ ∉ (u.history .idle [.tick ⟨0⟩, .tick ⟨0⟩]).answered := by
  intro s u
  have hs := recalled_is_silent .idle { queryTimeoutTicks := 1 } ∅ ()
    [.act (.ask "a" .null ()), .act (.cancel ⟨"q1"⟩), .tick ⟨0⟩, .tick ⟨0⟩]
    [.act (.ask "a" .null ()) ⟨"q1"⟩] ⟨"q1"⟩ true (u.history .idle [.tick ⟨0⟩, .tick ⟨0⟩]) rfl
    (by decide) (by decide)
  exact hs.resolve_right fun hr => Bool.noConfusion hr.1

/-- Two queries time out in one tick. The code of the first takes back the second, whose code is
called all the same. -/
theorem recalled_too_late :
    let s := start { queryTimeoutTicks := 1 } ({ types := ∅ } : World (Option RequestId)) ()
    let h := s.history .recalling
      [.act (.ask "a" .null (some ⟨"q2"⟩)), .act (.ask "b" .null none), .tick ⟨0⟩, .tick ⟨0⟩]
    ∃ (g : History (Option RequestId)) (reply : Bool) (g' : History (Option RequestId)),
      h = g ++ .act (.cancel ⟨"q2"⟩) reply :: g' ∧
      ⟨"q2"⟩ ∈ g.asked ∧ ⟨"q2"⟩ ∉ g.answered ∧ ⟨"q2"⟩ ∈ g'.answered := by
  intro s h
  obtain ⟨reply, hs⟩ := h.split_recall ⟨"q2"⟩ (by decide +kernel)
  refine ⟨_, reply, _, hs, ?_, ?_, ?_⟩ <;> decide +kernel

end Session

end Diorama
