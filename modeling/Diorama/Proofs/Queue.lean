import Diorama.Proofs.QueryLife

namespace Diorama

variable {κ σ : Type}

namespace Happening

def request? : Happening κ → Option Request
  | .act (.ask query payload _) id => some ⟨id, query, payload⟩
  | _ => none

/-- Code takes a query back, whether it is pending or not. -/
def recalls (id : RequestId) : Happening κ → Bool
  | .act (.cancel j) _ => j = id
  | _ => false

/-- The queries of a batch that got through to the host, with the tick of the batch. -/
def carried : Happening κ → List (Nat × RequestId)
  | .flush w batch (.ok (some _)) => batch.queries.map fun r => (w.tick, r.id)
  | _ => []

/-- What becomes of the queries that are not sent yet. -/
def queue (x : Happening κ) (rs : List Request) : List Request :=
  (rs.filter fun r => !x.recalls r.id) ++ x.request?.toList

theorem queue_eq_self {x : Happening κ} (hr : x.request? = none) (hc : ∀ id, x.recalls id = false)
    (rs : List Request) : x.queue rs = rs := by
  simp [queue, hr, hc]

theorem asked?_eq (x : Happening κ) : x.asked? = x.request?.map (·.id) := by
  cases x with
  | act a reply => cases a <;> rfl
  | _ => rfl

theorem carried_of_not_flush {x : Happening κ} (hf : x.isFlush = false) : x.carried = [] := by
  cases x with
  | flush w batch result => cases hf
  | _ => rfl

end Happening

namespace History

def unrecalled : History κ → List Request
  | [] => []
  | x :: h => (x.request?.toList.filter fun r => !h.any (Happening.recalls r.id)) ++ unrecalled h

def carried (h : History κ) : List (Nat × RequestId) := h.flatMap Happening.carried

theorem unrecalled_append (h h' : History κ) :
    unrecalled (h ++ h') =
      (h.unrecalled.filter fun r => !h'.any (Happening.recalls r.id)) ++ h'.unrecalled := by
  induction h with
  | nil => rfl
  | cons x h ih =>
    rw [List.cons_append, unrecalled, unrecalled, ih, List.filter_append, List.filter_filter,
      ← List.append_assoc]
    simp only [List.any_append, Bool.not_or, Bool.and_comm]

theorem unrecalled_asked (h : History κ) : (h.unrecalled.map (·.id)).Sublist h.asked := by
  induction h with
  | nil => exact .slnil
  | cons x h ih =>
    have hx : x.asked?.toList = x.request?.toList.map (·.id) := by
      rw [x.asked?_eq, Option.toList_map]
    have ha : asked (x :: h) = x.asked?.toList ++ asked h := by
      rw [asked, List.filterMap_cons]
      cases x.asked? <;> rfl
    rw [ha, hx, unrecalled, List.map_append]
    exact ((List.filter_sublist).map _).append ih

theorem asked_append (h h' : History κ) : asked (h ++ h') = h.asked ++ h'.asked :=
  List.filterMap_append

theorem carried_append (h h' : History κ) : carried (h ++ h') = h.carried ++ h'.carried :=
  List.flatMap_append

theorem carried_concat (h : History κ) (x : Happening κ) :
    carried (h ++ [x]) = h.carried ++ x.carried := by
  rw [carried_append]
  exact congrArg _ (List.flatMap_singleton ..)

theorem count_unrecalled {h h' : History κ} {x : Happening κ} {r : Request}
    (hx : x.request? = some r) (hb : r.id ∉ h.asked) (ha : r.id ∉ h'.asked) :
    ((unrecalled (h ++ x :: h')).map (·.id)).count r.id =
      if h'.any (Happening.recalls r.id) then 0 else 1 := by
  have hn : ((h.unrecalled.filter fun r => !(x :: h').any (Happening.recalls r.id)).map
      (·.id)).count r.id = 0 := by
    refine List.count_eq_zero.mpr fun hm => hb (h.unrecalled_asked.subset ?_)
    exact (List.filter_sublist.map _).subset hm
  have hm : (h'.unrecalled.map (·.id)).count r.id = 0 :=
    List.count_eq_zero.mpr fun hm => ha (h'.unrecalled_asked.subset hm)
  rw [unrecalled_append, unrecalled, hx, List.map_append, List.map_append, List.count_append,
    List.count_append, hn, hm, Option.toList_some, List.filter_cons]
  cases h'.any (Happening.recalls r.id) <;> simp

theorem carried_of_not_flush {h : History κ} (hf : ∀ x ∈ h, x.isFlush = false) :
    h.carried = [] :=
  List.flatMap_eq_nil_iff.mpr fun x hx => Happening.carried_of_not_flush (hf x hx)

theorem unrecalled_concat (h : History κ) (x : Happening κ) :
    unrecalled (h ++ [x]) = x.queue h.unrecalled := by
  rw [unrecalled_append, Happening.queue]
  simp [unrecalled]

theorem since_append (kind : Happening κ → Bool) (h : History κ) {h' : History κ}
    (hk : ∀ x ∈ h', kind x = false) : since kind (h ++ h') = h.since kind ++ h' := by
  induction h' generalizing h with
  | nil => simp
  | cons x h' ih =>
    have hx : (h ++ [x] : History κ).since kind = h.since kind ++ [x] := by
      rw [since_concat, hk x (.head _)]
      rfl
    rw [List.append_cons, ih _ fun y hy => hk y (.tail _ hy), hx, ← List.append_cons]

end History

namespace World

theorem perform_outgoing (w : World κ) (a : Action κ) :
    (w.perform a).2.queries.outgoing =
      (Happening.act a (w.perform a).1).queue w.queries.outgoing := by
  have quiet {x : Happening κ} (hr : x.request? = none) (hc : ∀ id, x.recalls id = false) :
      w.queries.outgoing = x.queue w.queries.outgoing := (Happening.queue_eq_self hr hc _).symm
  by_cases ha : a.isEdit = true
  · obtain ⟨s, hw, _⟩ := w.perform_isEdit ha
    rw [hw]
    cases a <;> first | exact quiet rfl fun _ => rfl | cases ha
  · cases a with
    | ask query payload code => simp [Happening.queue, Happening.recalls, Happening.request?,
        perform, ask, Queries.issue]
    | cancel id => simp [Happening.queue, Happening.recalls, Happening.request?, perform, cancel,
        Queries.cancel, eq_comm]
    | _ => first
      | exact quiet rfl fun _ => rfl
      | exact absurd rfl ha

end World

theorem Batch.queries_of_isEmpty {batch : Batch} (h : batch.isEmpty = true) :
    batch.queries = [] := by
  rw [isEmpty, Bool.and_eq_true, List.isEmpty_iff, List.isEmpty_iff] at h
  exact h.2

theorem Queries.expire_outgoing (q : Queries κ) (now timeout : Nat) :
    (q.expire now timeout).2.outgoing = q.outgoing := by
  rw [expire]
  split <;> rfl

namespace Moment

variable {m m' : Moment κ} {g h : History κ} {x : Happening κ} {types : Registry}

theorem Step.outgoing (hx : Step m x m') :
    m'.world.queries.outgoing =
      if x.isFlush then [] else x.queue m.world.queries.outgoing := by
  have quiet {y : Happening κ} (hf : y.isFlush = false) (hr : y.request? = none)
      (hc : ∀ id, y.recalls id = false) : m.world.queries.outgoing =
        if y.isFlush then [] else y.queue m.world.queries.outgoing := by
    rw [hf, Happening.queue_eq_self hr hc]
    rfl
  cases hx with
  | act a hp => exact m.world.perform_outgoing a
  | lapse timeout hp hi hl =>
    rw [Queries.expire_outgoing]
    exact quiet rfl rfl fun _ => rfl
  | flush seq result hp hi hl hr => rfl
  | _ => exact quiet rfl rfl fun _ => rfl

theorem Trail.outgoing (hh : Trail (.fresh types) h m) :
    m.world.queries.outgoing = (h.since Happening.isFlush).unrecalled := by
  induction hh with
  | nil => rfl
  | @snoc h m₁ m₂ x hm hx ih =>
    rw [hx.outgoing, History.since_concat, ih]
    split
    · rfl
    · rw [History.unrecalled_concat]

theorem Step.carried (hx : Step m x m') :
    (x.carried.map (·.2) ++ m'.world.queries.outgoing.map (·.id)).Sublist
      (m.world.queries.outgoing.map (·.id) ++ x.asked?.toList) := by
  by_cases hf : x.isFlush = true
  · have ho := hx.outgoing
    rw [if_pos hf] at ho
    rw [ho, List.map_nil, List.append_nil]
    refine .trans ?_ (List.sublist_append_left ..)
    cases hx with
    | flush seq result hp hi hl hr =>
      rcases result with f | _ | f
      · exact List.nil_sublist _
      · exact List.nil_sublist _
      · rw [Happening.carried, List.map_map]
        exact .refl _
    | _ => cases hf
  · have ho := hx.outgoing
    rw [if_neg hf] at ho
    rw [ho, Happening.carried_of_not_flush (Bool.not_eq_true _ ▸ hf), x.asked?_eq,
      Option.toList_map, Happening.queue, List.map_append]
    exact (List.filter_sublist.map _).append (.refl _)

theorem Trail.carried (hh : Trail m h m') :
    (h.carried.map (·.2) ++ m'.world.queries.outgoing.map (·.id)).Sublist
      (m.world.queries.outgoing.map (·.id) ++ h.asked) := by
  induction hh with
  | nil =>
    rw [History.asked, List.filterMap_nil, List.append_nil]
    exact .refl _
  | @snoc h m₁ m₂ x hm hx ih =>
    rw [History.carried_concat, List.map_append, List.append_assoc, History.asked,
      filterMap_concat, ← List.append_assoc (m.world.queries.outgoing.map _)]
    refine (hx.carried.append_left _).trans ?_
    rw [← List.append_assoc]
    exact ih.append_right _

theorem Trail.nodup_carried (hh : Trail (.fresh types) h m) :
    (h.carried.map (·.2) ++ m.world.queries.outgoing.map (·.id)).Nodup :=
  hh.ledger.nodup_asked.sublist hh.carried

end Moment

namespace Session

section
variable {b : Behaviour κ σ} {dt : Binary64} {s : Session κ σ} {report : Report}

theorem flush_ok {t : Turn κ σ} (hk : t.flush.1 = .ok report) :
    report = { t.report with flushed := report.flushed } := by
  rw [Turn.flush_eq] at hk
  split at hk <;> cases hk <;> rfl

theorem flush_report {t : Turn κ σ} (hk : t.flush.1 = .ok report) :
    report.tick = t.report.tick := (congrArg Report.tick (flush_ok hk)).trans rfl

theorem isOk_of_tick (hk : (s.tick b dt).1 = .ok report) : (s.tick b dt).1.isOk = true := by
  rw [hk]
  rfl

theorem exists_report (b : Behaviour κ σ) (dt : Binary64) (s : Session κ σ)
    (hk : (s.tick b dt).1.isOk = true) : ∃ report, (s.tick b dt).1 = .ok report := by
  rcases hr : s.tick b dt with ⟨f | report, u⟩
  · rw [hr] at hk
    cases hk
  · exact ⟨report, rfl⟩

theorem tick_flush (hk : (s.tick b dt).1 = .ok report) :
    (s.worked b dt).flush.1 = .ok report ∧
      (s.tick b dt).2.world = (s.worked b dt).flush.2.world := by
  obtain ⟨hf, hs⟩ := tick_isOk (isOk_of_tick hk)
  rw [tick, hf] at hk ⊢
  rw [← step_isOk hs]
  rcases hr : s.step b dt with ⟨f | r, u⟩
  · rw [hr] at hs
    cases hs
  · rw [hr] at hk
    exact ⟨hk, rfl⟩

theorem tick_queries (hk : (s.tick b dt).1 = .ok report) :
    (s.tick b dt).2.world.queries =
      ((s.worked b dt).world.queries.takeOutgoing report.tick).2 := by
  obtain ⟨hr, hw⟩ := tick_flush hk
  rw [hw, Turn.flush_world, flush_report hr]

theorem worked_trail (hk : (s.tick b dt).1.isOk = true) :
    Moment.Trail s.moment (.begin :: s.link.toScene.waiting.map .hear ++ s.workDeeds b dt)
      ((s.worked b dt).moment .work [] []) :=
  (intake_trail (tick_isOk hk).1).trans (work_trail b dt s)

end

variable {b : Behaviour κ σ} {config : Config} {types : Registry} {memory : σ}
  {moves : List (Move κ σ)} {g g' d : History κ} {w : World κ} {batch : Batch}

theorem history_flush {s : Session κ σ} {ms : List (Move κ σ)} {dt : Binary64} {report : Report}
    (hk : ((s.after b ms).tick b dt).1 = .ok report) :
    ∃ (g : History κ) (w : World κ) (batch : Batch),
      s.history b (ms ++ [.tick dt]) = g ++ [.flush w batch (.ok report.flushed)] := by
  have hs := history_tick (isOk_of_tick hk)
  rw [Turn.telling, (tick_flush hk).1] at hs
  exact ⟨_, _, _, hs⟩

theorem flush_queries {flushed : Option Flushed}
    (hs : (start config ({ types } : World κ) memory).history b moves =
      g ++ .flush w batch (.ok flushed) :: g') :
    batch.queries = (g.since Happening.isFlush).unrecalled ∧
      (flushed = none → batch.queries = []) := by
  have hh := start_trail b config types memory moves
  rw [hs] at hh
  obtain ⟨m, m', hg, hx, _⟩ := hh.split_at
  cases hx with
  | flush seq result hp hi hl hr =>
    exact ⟨hg.outgoing, fun he => Batch.queries_of_isEmpty (hr (congrArg _ he))⟩

theorem count_carried {query : String} {payload : Json} {code : κ} {id : RequestId}
    {flushed : Option Flushed} (hd : ∀ x ∈ d, x.isFlush = false)
    (hs : (start config ({ types } : World κ) memory).history b moves =
      g ++ .act (.ask query payload code) id :: d ++ .flush w batch (.ok flushed) :: g') :
    (((start config ({ types } : World κ) memory).history b moves).carried.map (·.2)).count id =
      if d.any (Happening.recalls id) then 0 else 1 := by
  obtain ⟨hq, he⟩ := flush_queries hs
  have hh := start_trail b config types memory moves
  have hn := hh.ledger.nodup_asked
  rw [hs] at hh hn ⊢
  obtain ⟨m, m', hg, hx, hg'⟩ := hh.split_at
  obtain ⟨m₀, _, hg₀, _, _⟩ := hg.split_at
  have ha : (g ++ .act (.ask query payload code) id :: d
      ++ .flush w batch (.ok flushed) :: g' : History κ).asked =
        g.asked ++ id :: (d.asked ++ g'.asked) := by
    simp only [History.asked_append, List.append_assoc]
    rfl
  rw [ha, List.nodup_middle, List.nodup_cons, List.mem_append, List.mem_append, not_or,
    not_or] at hn
  obtain ⟨⟨hb, hm, ha⟩, _⟩ := hn
  -- It is not in a batch before, for it was not asked yet, and not in one after, for nothing of
  -- what was asked by now waits any longer.
  have before : (g.carried.map (·.2)).count id = 0 :=
    List.count_eq_zero.mpr fun hc => hb (hg₀.carried.subset (List.mem_append_left _ hc))
  have after : (g'.carried.map (·.2)).count id = 0 := by
    have ho : m'.world.queries.outgoing = [] := hx.outgoing
    have hc := hg'.carried
    rw [ho] at hc
    exact List.count_eq_zero.mpr fun hi => ha (hc.subset (List.mem_append_left _ hi))
  have now : (Happening.flush w batch (.ok flushed) : Happening κ).carried.map (·.2) =
      batch.queries.map (·.id) := by
    cases flushed with
    | none =>
      rw [he rfl]
      rfl
    | some f =>
      rw [Happening.carried, List.map_map]
      rfl
  have between : History.carried (.act (.ask query payload code) id :: d : History κ) = [] :=
    History.carried_of_not_flush fun x hx => (List.mem_cons.mp hx).elim (fun h => h ▸ rfl) (hd x)
  have since : (g ++ .act (.ask query payload code) id :: d : History κ).since Happening.isFlush =
      g.since Happening.isFlush ++ .act (.ask query payload code) id :: d :=
    History.since_append _ _ fun x hx => (List.mem_cons.mp hx).elim (fun h => h ▸ rfl) (hd x)
  have hr : (Happening.act (.ask query payload code) id : Happening κ).request? =
      some ⟨id, query, payload⟩ := rfl
  have hb' : id ∉ (g.since Happening.isFlush).asked := fun hm =>
    hb (((g.since_suffix _).sublist.filterMap _).subset hm)
  rw [History.carried_append, History.carried_append, between, List.append_nil,
    ← List.singleton_append, History.carried_append, List.map_append, List.map_append,
    List.count_append, List.count_append, before, after, Nat.zero_add, Nat.add_zero]
  rw [History.carried, List.flatMap_singleton, now, hq, since]
  exact History.count_unrecalled hr hb' hm

/-- Every batch carries the queries that were asked since the batch before and not taken back, in
the order of asking. Over a whole run no query is carried twice, and one is carried if and only if
it was not taken back before the batch after it was made. -/
theorem queries_travel_once (b : Behaviour κ σ) (config : Config) (types : Registry) (memory : σ)
    (moves : List (Move κ σ)) :
    let s := start config ({ types } : World κ) memory
    let h := s.history b moves
    (∀ ms dt report, ((s.after b ms).tick b dt).1 = .ok report →
      ∃ (g : History κ) (w : World κ) (batch : Batch),
        s.history b (ms ++ [.tick dt]) = g ++ [.flush w batch (.ok report.flushed)]) ∧
    (∀ (g : History κ) w batch flushed g', h = g ++ .flush w batch (.ok flushed) :: g' →
      batch.queries = (g.since Happening.isFlush).unrecalled ∧
        (flushed = none → batch.queries = [])) ∧
    (h.carried.map (·.2)).Nodup ∧
    ∀ (g d : History κ) query payload code id w batch flushed g',
      h = g ++ .act (.ask query payload code) id :: d ++ .flush w batch (.ok flushed) :: g' →
      (∀ x ∈ d, x.isFlush = false) →
      (h.carried.map (·.2)).count id = if d.any (Happening.recalls id) then 0 else 1 := by
  intro s h
  have hh := start_trail b config types memory moves
  refine ⟨fun ms dt report hk => history_flush hk,
    fun g w batch flushed g' hs => flush_queries hs, ?_,
    fun g d query payload code id w batch flushed g' hs hd => count_carried hd hs⟩
  exact (List.nodup_append.mp hh.nodup_carried).1

theorem queries_travel_once_recalled :
    let s := start {} ({ types := ∅ } : World Unit) ()
    let ms : List (Move Unit Unit) :=
      [.act (.ask "a" .null ()), .act (.ask "b" .null ()), .act (.cancel ⟨"q1"⟩)]
    let h := s.history .idle (ms ++ [.tick ⟨0⟩])
    (h.carried.map (·.2)).count ⟨"q1"⟩ = 0 ∧ (h.carried.map (·.2)).count ⟨"q2"⟩ = 1 := by
  intro s ms h
  obtain ⟨hf, _, _, hc⟩ := queries_travel_once .idle {} ∅ () (ms ++ [.tick ⟨0⟩])
  have hn : h.countP Happening.isFlush = 1 := by decide +kernel
  obtain ⟨report, he⟩ := exists_report .idle ⟨0⟩ (s.after .idle ms) (by decide +kernel)
  obtain ⟨g, w, batch, hs⟩ := hf ms ⟨0⟩ report he
  have quiet : ∀ x ∈ g, x.isFlush = false := by
    rw [show h = _ from hs, List.countP_append] at hn
    have hn : g.countP Happening.isFlush + 1 = 1 := hn
    intro x hx
    exact Bool.not_eq_true _ ▸ List.countP_eq_zero.mp (Nat.add_right_cancel hn) x hx
  have recalled (id : RequestId) :
      g.any (Happening.recalls id) = h.any (Happening.recalls id) := by
    rw [show h = _ from hs, List.any_append]
    simp [Happening.recalls]
  obtain ⟨d, rfl⟩ : ∃ d, g = .act (.ask "a" .null ()) ⟨"q1"⟩ ::
      .act (.ask "b" .null ()) ⟨"q2"⟩ :: d := by
    rcases g with _ | ⟨x, _ | ⟨y, d⟩⟩
    · cases hs
    · cases hs
    · obtain ⟨hx, hs⟩ := List.cons.inj hs
      obtain ⟨hy, _⟩ := List.cons.inj hs
      exact ⟨d, congrArg₂ (fun x y => x :: y :: d) hx.symm hy.symm⟩
  have h₁ := hc [] _ "a" .null () ⟨"q1"⟩ w batch _ [] hs fun x hx => quiet x (.tail _ hx)
  have h₂ := hc [_] d "b" .null () ⟨"q2"⟩ w batch _ [] hs fun x hx =>
    quiet x (.tail _ (.tail _ hx))
  have hr₁ : h.any (Happening.recalls ⟨"q1"⟩) = true := by decide +kernel
  have hr₂ : h.any (Happening.recalls ⟨"q2"⟩) = false := by decide +kernel
  rw [← recalled] at hr₁ hr₂
  exact ⟨h₁.trans (if_pos hr₁), h₂.trans (if_neg (Bool.not_eq_true _ ▸ hr₂))⟩

end Session

end Diorama
