import Diorama.Proofs.Course
import Diorama.Proofs.Lookup

namespace Diorama

variable {κ : Type}

namespace Queries

variable (q : Queries κ) (id j : RequestId)

theorem issue_get? (query : String) (payload : Json) (code : κ) :
    (q.issue query payload code).2.pending.get? j =
      if RequestId.ofNat (q.issued + 1) = j then some ⟨none, code⟩ else q.pending.get? j :=
  Table.get?_insert ..

theorem issue_isPending (query : String) (payload : Json) (code : κ) :
    (q.issue query payload code).2.isPending j =
      (decide (RequestId.ofNat (q.issued + 1) = j) || q.isPending j) :=
  Table.contains_insert ..

theorem cancel_isPending :
    (q.cancel id).2.isPending j = (decide (id ≠ j) && q.isPending j) := Table.contains_erase ..

theorem resolve_isPending :
    (q.resolve id).2.isPending j = (decide (id ≠ j) && q.isPending j) := Table.contains_erase ..

theorem cancel_get? :
    (q.cancel id).2.pending.get? j = if id = j then none else q.pending.get? j :=
  Table.get?_erase ..

theorem resolve_get? :
    (q.resolve id).2.pending.get? j = if id = j then none else q.pending.get? j :=
  Table.get?_erase ..

theorem resolve_eq_some {code : κ} :
    (q.resolve id).1 = some code ↔ ∃ p, q.pending.get? id = some p ∧ p.callback = code :=
  Option.map_eq_some_iff

theorem eraseAll_get? (gone : List (RequestId × Pending κ)) (t : Table RequestId (Pending κ)) :
    (gone.foldl (fun t e => t.erase e.1) t).get? j =
      if j ∈ gone.map (·.1) then none else t.get? j := by
  induction gone generalizing t with
  | nil => rfl
  | cons e gone ih =>
    rw [List.foldl_cons, ih, Table.get?_erase, List.map_cons]
    by_cases hj : j ∈ gone.map (·.1)
    · rw [if_pos hj, if_pos (.tail _ hj)]
    · rw [if_neg hj]
      by_cases he : e.1 = j
      · rw [if_pos he, if_pos (he ▸ .head _)]
      · rw [if_neg he, if_neg fun hm => (List.mem_cons.mp hm).elim (fun h => he h.symm) hj]

variable (now timeout : Nat)

theorem expire_issued : (q.expire now timeout).2.issued = q.issued := by
  rw [expire]
  split <;> rfl

theorem expire_get? : (q.expire now timeout).2.pending.get? j =
    if j ∈ (q.expire now timeout).1.map (·.1) then none else q.pending.get? j := by
  rw [expire]
  split
  · rfl
  · apply (eraseAll_get? j _ _).trans
    rw [List.map_map]
    rfl

theorem expire_isPending : (q.expire now timeout).2.isPending j =
    (decide (j ∉ (q.expire now timeout).1.map (·.1)) && q.isPending j) := by
  rw [isPending, Table.contains, expire_get?]
  by_cases hj : j ∈ (q.expire now timeout).1.map (·.1)
  · rw [if_pos hj, decide_eq_false (not_not_intro hj)]
    rfl
  · rw [if_neg hj, decide_eq_true hj]
    rfl

theorem expire_ordered : ((q.expire now timeout).1.map (·.1)).Pairwise (· < ·) := by
  rw [expire]
  split
  · exact .nil
  · rw [List.map_map]
    exact List.pairwise_map.mpr (q.pending.ordered.filter _)

theorem expire_nodup : ((q.expire now timeout).1.map (·.1)).Nodup := by
  refine (q.expire_ordered now timeout).imp ?_
  rintro a b hab rfl
  exact Std.lt_irrefl hab

theorem mem_expire {code : κ} : (id, code) ∈ (q.expire now timeout).1 ↔
    0 < timeout ∧ ∃ p sent, q.pending.get? id = some p ∧ p.callback = code ∧
      p.sent = some sent ∧ timeout ≤ now - sent := by
  rw [expire]
  split
  · rename_i ht
    simp [ht]
  · rename_i ht
    rw [and_iff_right (Nat.pos_of_ne_zero ht), List.mem_map]
    constructor
    · rintro ⟨⟨j, p⟩, hm, he⟩
      obtain ⟨rfl, rfl⟩ := Prod.mk.inj he
      obtain ⟨hm, hx⟩ := List.mem_filter.mp hm
      obtain ⟨sent, hs, hx⟩ := (Option.any_eq_true _ _).mp hx
      exact ⟨p, sent, Table.get?_eq_some.mpr hm, rfl, hs, of_decide_eq_true hx⟩
    · rintro ⟨p, sent, hg, rfl, hs, hx⟩
      refine ⟨(id, p), List.mem_filter.mpr ⟨Table.get?_eq_some.mp hg, ?_⟩, rfl⟩
      exact (Option.any_eq_true _ _).mpr ⟨sent, hs, decide_eq_true hx⟩

theorem mem_expired : id ∈ (q.expire now timeout).1.map (·.1) ↔
    0 < timeout ∧ ∃ p sent, q.pending.get? id = some p ∧ p.sent = some sent ∧
      timeout ≤ now - sent := by
  rw [List.mem_map]
  constructor
  · rintro ⟨⟨j, code⟩, hm, rfl⟩
    obtain ⟨ht, p, sent, hg, _, hs, hx⟩ := (q.mem_expire j now timeout).mp hm
    exact ⟨ht, p, sent, hg, hs, hx⟩
  · rintro ⟨ht, p, sent, hg, hs, hx⟩
    exact ⟨(id, p.callback), (q.mem_expire id now timeout).mpr ⟨ht, p, sent, hg, rfl, hs, hx⟩, rfl⟩

theorem pending_of_expire (h : id ∈ (q.expire now timeout).1.map (·.1)) :
    q.isPending id = true := by
  obtain ⟨_, p, _, hp, _⟩ := (q.mem_expired id now timeout).mp h
  exact Table.contains_of_get? hp

theorem stamp_get? (tick : Nat) (t : Table RequestId (Pending κ)) (r : Request) :
    (stamp tick t r).get? j =
      (t.get? j).map fun p => if r.id = j then { p with sent := some tick } else p := by
  rw [stamp]
  cases hr : t.get? r.id with
  | none =>
    by_cases he : r.id = j
    · rw [← he, hr]
      rfl
    · simp [he]
  | some p =>
    rw [Table.get?_insert]
    by_cases he : r.id = j
    · simp [← he, hr]
    · simp [he]

theorem stampAll_get? (tick : Nat) (rs : List Request) (t : Table RequestId (Pending κ)) :
    (rs.foldl (stamp tick) t).get? j =
      (t.get? j).map fun p => if j ∈ rs.map (·.id) then { p with sent := some tick } else p := by
  induction rs generalizing t with
  | nil => simp
  | cons r rs ih =>
    rw [List.foldl_cons, ih, stamp_get?, Option.map_map]
    congr 1
    funext p
    simp only [Function.comp, List.map_cons, List.mem_cons]
    by_cases he : r.id = j
    · subst he
      simp
    · simp only [he, Ne.symm he, if_false, false_or]

theorem takeOutgoing_get? (tick : Nat) :
    (q.takeOutgoing tick).2.pending.get? j = (q.pending.get? j).map fun p =>
      if j ∈ q.outgoing.map (·.id) then { p with sent := some tick } else p :=
  stampAll_get? j tick q.outgoing q.pending

theorem takeOutgoing_isPending (tick : Nat) :
    (q.takeOutgoing tick).2.isPending j = q.isPending j := by
  rw [isPending, Table.contains, takeOutgoing_get?, Option.isSome_map]
  rfl

end Queries

theorem RequestId.ofNat_injective {m n : Nat} (h : ofNat m = ofNat n) : m = n := by
  have ht := (String.append_right_inj _).mp (congrArg RequestId.text h)
  have hd : Nat.toDigits 10 m = Nat.toDigits 10 n := by
    rw [← Nat.toList_repr, ← Nat.toList_repr]
    exact congrArg String.toList ht
  rw [← Nat.ofDigitChars_ten_toDigits (n := m), hd, Nat.ofDigitChars_ten_toDigits]

def Arrival.responses (as : List Arrival) : List (RequestId × Outcome) :=
  as.filterMap fun
    | .response id o => some (id, o)
    | .event _ => none

/-- What a moment is to its queries. -/
structure Desk (κ : Type) where
  queries : Queries κ
  responses : List (RequestId × Outcome)
  late : List (RequestId × κ)
  phase : Phase

def Moment.desk (m : Moment κ) : Desk κ :=
  ⟨m.world.queries, Arrival.responses m.inbox, m.late, m.phase⟩

structure Happening.Idle (x : Happening κ) : Prop where
  asked : x.asked? = none
  cancelled : x.cancelled? = none
  answered : x.answered? = none
  response (id : RequestId) : x.response? id = none

namespace Desk

def hear (q : Queries κ) (frame : String) : List (RequestId × Outcome) :=
  match HostMessage.parse frame.toList with
  | .ok (.response request payload error) =>
    if q.isPending request then
      [(request, match error with
        | some message => .failed message
        | none => .resolved payload)]
    else []
  | _ => []

inductive Step (d : Desk κ) : Happening κ → Desk κ → Prop
  | idle {x : Happening κ} (hx : x.Idle) : Step d x d
  | ask (query : String) (payload : Json) (code : κ) (hp : d.phase ≠ .intake) :
      Step d (.act (.ask query payload code) (d.queries.issue query payload code).1)
        { d with queries := (d.queries.issue query payload code).2 }
  | cancel (id : RequestId) (hp : d.phase ≠ .intake) :
      Step d (.act (.cancel id) (d.queries.cancel id).1)
        { d with queries := (d.queries.cancel id).2 }
  | begin (hp : d.phase = .rest) : Step d .begin { d with phase := .intake }
  | hear (frame : String) (hp : d.phase = .intake) :
      Step d (.hear frame) { d with responses := d.responses ++ hear d.queries frame }
  | lose (hp : d.phase = .intake) : Step d .lose { d with responses := [], phase := .over }
  | gather (hp : d.phase = .intake) : Step d .gather { d with phase := .work }
  | drop {id : RequestId} {o : Outcome} {rs : List (RequestId × Outcome)} (hp : d.phase = .work)
      (hi : d.responses = (id, o) :: rs) (hq : d.queries.isPending id = false) :
      Step d (.drop (.unmatched id)) { d with responses := rs }
  | answer {id : RequestId} {code : κ} {o : Outcome} {rs : List (RequestId × Outcome)}
      (hp : d.phase = .work) (hi : d.responses = (id, o) :: rs)
      (hq : (d.queries.resolve id).1 = some code) :
      Step d (.answer id code o)
        { d with responses := rs, queries := (d.queries.resolve id).2 }
  | lapse (now timeout : Nat) (hp : d.phase = .work) (hi : d.responses = []) (hl : d.late = []) :
      Step d .lapse
        { d with
          late := (d.queries.expire now timeout).1
          queries := (d.queries.expire now timeout).2 }
  | timeOut {id : RequestId} {code : κ} {late : List (RequestId × κ)} (hp : d.phase = .work)
      (hl : d.late = (id, code) :: late) : Step d (.answer id code .timedOut) { d with late }
  | flush (w : World κ) (batch : Batch) (result : Except Failure (Option Flushed)) (tick : Nat)
      (hp : d.phase = .work) (hi : d.responses = []) (hl : d.late = []) :
      Step d (.flush w batch result)
        { d with
          queries := (d.queries.takeOutgoing tick).2
          phase := if result.isOk then .rest else .over }

end Desk

namespace World

theorem perform_queries (w : World κ) (a : Action κ) :
    (∃ query payload code, a = .ask query payload code) ∨ (∃ id, a = .cancel id) ∨
      (w.perform a).2.queries = w.queries ∧ (Happening.act a (w.perform a).1).Idle := by
  by_cases ha : a.isEdit = true
  · obtain ⟨s, hw, _⟩ := w.perform_isEdit ha
    refine .inr (.inr ⟨by rw [hw]; rfl, ?_⟩)
    cases a <;> first | exact ⟨rfl, rfl, rfl, fun _ => rfl⟩ | cases ha
  · cases a with
    | ask query payload code => exact .inl ⟨query, payload, code, rfl⟩
    | cancel id => exact .inr (.inl ⟨id, rfl⟩)
    | _ => first
      | exact .inr (.inr ⟨rfl, rfl, rfl, rfl, fun _ => rfl⟩)
      | exact absurd rfl ha

end World

namespace Moment

variable {m m' : Moment κ} {x : Happening κ}

theorem hear_desk (w : World κ) (as : List Arrival) (frame : String) :
    Arrival.responses (as ++ (Arrival.ofFrame w frame).toOption.toList) =
      Arrival.responses as ++ Desk.hear w.queries frame := by
  rw [Arrival.responses, List.filterMap_append, Arrival.ofFrame, Desk.hear]
  cases HostMessage.parse frame.toList with
  | error fault => rfl
  | ok message =>
    cases message with
    | event name entity payload =>
      cases entity with
      | none => rfl
      | some e =>
        simp only [Arrival.ofMessage]
        by_cases ha : w.isAlive e = true
        · rw [if_pos ha]
          rfl
        · rw [if_neg ha]
          rfl
    | response request payload error =>
      simp only [Arrival.ofMessage]
      by_cases hq : w.queries.isPending request = true
      · rw [if_pos hq, if_pos hq]
        rfl
      · rw [if_neg hq, if_neg hq]
        rfl

theorem Step.desk (hx : Step m x m') : m.desk.Step x m'.desk := by
  cases hx with
  | act a hp =>
    obtain ⟨query, payload, code, rfl⟩ | ⟨id, rfl⟩ | ⟨hq, hi⟩ := m.world.perform_queries a
    · exact .ask query payload code hp
    · exact .cancel id hp
    · have hd : desk { m with world := (m.world.perform a).2 } = m.desk := by
        simp only [Moment.desk, hq]
      rw [hd]
      exact .idle hi
  | begin hp => exact .begin hp
  | hear frame hp =>
    have hs := Desk.Step.hear (d := m.desk) frame hp
    rwa [Moment.desk, ← hear_desk] at hs
  | lose hp => exact .lose hp
  | gather ms hp => exact .gather hp
  | deliver hp hi =>
    simp only [Moment.desk, hi]
    exact .idle ⟨rfl, rfl, rfl, fun _ => rfl⟩
  | notify h e hp => exact .idle ⟨rfl, rfl, rfl, fun _ => rfl⟩
  | dropEvent e hp hi =>
    simp only [Moment.desk, hi]
    exact .idle ⟨rfl, rfl, rfl, fun _ => rfl⟩
  | @dropResponse id o as hp hi hq =>
    have hr : m.desk.responses = (id, o) :: Arrival.responses as := by
      rw [Moment.desk, hi]
      rfl
    exact .drop hp hr hq
  | @answer id code o as hp hi hq =>
    have hr : m.desk.responses = (id, o) :: Arrival.responses as := by
      rw [Moment.desk, hi]
      rfl
    exact .answer hp hr hq
  | lapse timeout hp hi hl =>
    refine .lapse m.world.tick timeout hp ?_ hl
    rw [Moment.desk, hi]
    rfl
  | timeOut hp hl => exact .timeOut hp hl
  | convene ms hp => exact .idle ⟨rfl, rfl, rfl, fun _ => rfl⟩
  | update h hp => exact .idle ⟨rfl, rfl, rfl, fun _ => rfl⟩
  | flush seq result hp hi hl hr =>
    refine .flush m.world (m.batch seq) result m.world.tick hp ?_ hl
    rw [Moment.desk, hi]
    rfl

end Moment

end Diorama
