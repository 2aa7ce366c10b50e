import Diorama.Proofs.Enrolment
import Diorama.Proofs.Queue

namespace Diorama

open Moment

variable {κ σ : Type}

def Behaviour.retiring : Behaviour (Option Nat) σ
  | some n, _, memory => .act (.unregister ⟨n⟩) fun _ => .finish none memory .returned
  | none, _, memory => .finish none memory .returned

namespace Happening

def updated? : Happening κ → Option (Handle (System κ))
  | .update h => some h
  | _ => none

end Happening

namespace History

def systems (h : History κ) : Members (System κ) :=
  (h.filterMap Happening.systemOrder?).foldl Order.enlist []

def updated (h : History κ) : List (Handle (System κ)) := h.filterMap Happening.updated?

theorem systems_append (h h' : History κ) :
    systems (h ++ h') = (h'.filterMap Happening.systemOrder?).foldl Order.enlist h.systems := by
  rw [systems, List.filterMap_append, List.foldl_append]
  rfl

theorem updated_append (h h' : History κ) : updated (h ++ h') = h.updated ++ h'.updated :=
  List.filterMap_append

end History

/-- What decides where a system stands. -/
def System.rank (m : Handle (System κ) × System κ) : Handle (System κ) × Int :=
  (m.1, m.2.priority)

def Precedes (a b : Handle (System κ) × Int) : Prop :=
  a.2 < b.2 ∨ a.2 = b.2 ∧ a.1.number < b.1.number

namespace Schedule

theorem place_cons (m x : Handle (System κ) × System κ) (ms : Members (System κ)) :
    place m (x :: ms) =
      if x.2.priority ≤ m.2.priority then x :: place m ms else m :: x :: ms := by
  simp only [place, List.takeWhile_cons, decide_eq_true_eq]
  split <;> rfl

theorem place_perm (m : Handle (System κ) × System κ) (ms : Members (System κ)) :
    (place m ms).Perm (m :: ms) := by
  induction ms with
  | nil => exact .refl _
  | cons x ms ih =>
    rw [place_cons]
    split
    · exact (ih.cons x).trans (.swap ..)
    · exact .refl _

theorem place_order {m : Handle (System κ) × System κ} {ms : Members (System κ)}
    (ho : ms.Pairwise fun a b => Precedes (System.rank a) (System.rank b))
    (hn : ∀ l ∈ ms, l.1.number < m.1.number) :
    (place m ms).Pairwise fun a b => Precedes (System.rank a) (System.rank b) := by
  induction ms with
  | nil => exact List.pairwise_singleton ..
  | cons x ms ih =>
    obtain ⟨hx, ho⟩ := List.pairwise_cons.mp ho
    rw [place_cons]
    split
    · rename_i hp
      refine List.pairwise_cons.mpr ⟨fun y hy => ?_, ih ho fun l hl => hn l (.tail _ hl)⟩
      obtain rfl | hy := List.mem_cons.mp ((place_perm m ms).mem_iff.mp hy)
      · exact (Int.lt_or_eq_of_le hp).imp_right fun he => ⟨he, hn x (.head _)⟩
      · exact hx y hy
    · rename_i hp
      have hm : m.2.priority < x.2.priority := Int.not_le.mp hp
      refine List.pairwise_cons.mpr ⟨fun y hy => .inl ?_, List.pairwise_cons.mpr ⟨hx, ho⟩⟩
      obtain rfl | hy := List.mem_cons.mp hy
      · exact hm
      · obtain hl | ⟨he, _⟩ := hx y hy
        · exact Int.lt_trans hm hl
        · exact he ▸ hm

/-- The systems of a list in the order of registration, as they are to run. -/
structure Fits (ms list : Members (System κ)) : Prop where
  same : (ms.map System.rank).Perm (list.map System.rank)
  order : (ms.map System.rank).Pairwise Precedes

theorem Fits.of_rank {ms ms' list : Members (System κ)} (hf : Fits ms list)
    (hr : ms'.map System.rank = ms.map System.rank) : Fits ms' list :=
  ⟨hr ▸ hf.same, hr ▸ hf.order⟩

theorem arrangement : Arrangement place (Fits (κ := κ)) where
  join {ms list m} hf hn := by
    have hm : ∀ l ∈ ms, l.1.number < m.1.number := fun l hl => by
      obtain ⟨l', hl', he⟩ := List.mem_map.mp (hf.same.mem_iff.mp (List.mem_map_of_mem hl))
      have hs : l'.1 = l.1 := congrArg (fun r => r.1) he
      exact hs ▸ hn l' hl'
    refine ⟨?_, List.pairwise_map.mpr (place_order (List.pairwise_map.mp hf.order) hm)⟩
    rw [List.map_append]
    refine ((place_perm m ms).map System.rank).trans ?_
    exact (hf.same.cons _).trans (List.perm_append_singleton ..).symm
  leave {ms list} h hf := by
    have hk (ms : Members (System κ)) : (ms.filter (·.1 ≠ h)).map System.rank =
        (ms.map System.rank).filter (·.1 ≠ h) := by
      rw [List.filter_map]
      rfl
    refine ⟨?_, ?_⟩
    · rw [hk, hk]
      exact hf.same.filter _
    · rw [hk]
      exact hf.order.filter _

theorem pass_rank (b : Behaviour κ σ) (scene : String) (dt : Binary64) (ms : Members (System κ))
    (s : Stage κ σ) :
    (pass b scene dt ms s).members.map System.rank = ms.map System.rank := by
  induction ms generalizing s with
  | nil => rfl
  | cons m ms ih =>
    simp only [pass]
    split <;> exact congrArg (System.rank m :: ·) (ih _)

end Schedule

namespace Turn

variable (b : Behaviour κ σ) (dt : Binary64) (t : Turn κ σ)

def convened : Members (System κ) × Stage κ σ :=
  let (ms, systems) := t.world.systems.call Schedule.place t.session.systems
  (ms, { t.session.stage with world := { t.world with systems } })

def round : Schedule.Pass κ σ :=
  Schedule.pass b t.session.config.sceneId dt t.convened.1 t.convened.2

variable {t}

theorem updateDeeds_running (hp : t.session.paused = false) :
    t.updateDeeds b dt = .convene :: Schedule.deeds b dt t.convened.1 t.convened.2 := by
  rw [updateDeeds, hp]
  rfl

theorem update_running (hp : t.session.paused = false) :
    (t.update b dt).session.systems = (t.round b dt).members ∧
      (t.update b dt).world = (t.round b dt).stage.world ∧
      (t.update b dt).report.systems = t.convened.1.length := by
  have hl := congrArg List.length
    (Schedule.pass_rank b t.session.config.sceneId dt t.convened.1 t.convened.2)
  rw [List.length_map, List.length_map] at hl
  rw [update, hp]
  exact ⟨rfl, rfl, hl⟩

theorem update_paused (hp : t.session.paused = true) :
    t.updateDeeds b dt = [] ∧ t.update b dt = t := by
  rw [updateDeeds, update, if_pos hp, if_pos hp]
  exact ⟨rfl, rfl⟩

end Turn

theorem Moment.Trail.systems {m m' : Moment κ} {h : History κ} (hh : Trail m h m')
    (hc : ∀ x ∈ h, x.isConvene = false) {ms list : Members (System κ)}
    (he : Enrolled Schedule.place Schedule.Fits m.world.systems ms list) :
    Enrolled Schedule.place Schedule.Fits m'.world.systems ms
      ((h.filterMap Happening.systemOrder?).foldl Order.enlist list) :=
  hh.enrolled World.systems Happening.systemOrder? Happening.isConvene Step.systems
    Schedule.arrangement hc he

theorem Happening.before_convene {x : Happening κ}
    (hx : x.inIntake = true ∨ x.inDispatch = true ∨ x.inExpiry = true) :
    x.isConvene = false ∧ x.updated? = none := by
  cases x with
  | convene => simp [inIntake, inDispatch, inExpiry] at hx
  | update h => simp [inIntake, inDispatch, inExpiry] at hx
  | _ => exact ⟨rfl, rfl⟩

theorem Turn.update_enrolled (b : Behaviour κ σ) (dt : Binary64) {t : Turn κ σ}
    {list : Members (System κ)}
    (he : Enrolled Schedule.place Schedule.Fits t.world.systems t.session.systems list) :
    Enrolled Schedule.place Schedule.Fits (t.update b dt).world.systems
      (t.update b dt).session.systems
      (((t.updateDeeds b dt).filterMap Happening.systemOrder?).foldl Order.enlist list) := by
  cases hp : t.session.paused with
  | true =>
    obtain ⟨hd, hu⟩ := update_paused b dt hp
    rw [hd, hu]
    exact he
  | false =>
    obtain ⟨hs, hw, _⟩ := update_running b dt hp
    rw [updateDeeds_running b dt hp, hs, hw]
    -- The members after the pass, with their code as it is then, could as well have been called.
    have hm : Schedule.Fits (t.round b dt).members list :=
      he.fits.of_rank (Schedule.pass_rank b _ dt t.convened.1 t.convened.2)
    have hh := Schedule.pass_trail b t.session.config.sceneId dt t.convened.1 t.convened.2
      { world := t.convened.2.world, phase := .work } rfl rfl
    refine hh.systems (fun x hx => ?_) (he.called hm)
    obtain ⟨a, reply, rfl⟩ | ⟨h, rfl⟩ := Schedule.mem_deeds hx <;> rfl

namespace Session

/-- The systems, with all that is ordered of them, are those of a list. -/
def Staffed (s : Session κ σ) (list : Members (System κ)) : Prop :=
  Enrolled Schedule.place Schedule.Fits s.world.systems s.systems list

section
variable {b : Behaviour κ σ} {dt : Binary64} {s : Session κ σ} {list : Members (System κ)}

theorem opening_cast (b : Behaviour κ σ) (s : Session κ σ) :
    ((s.dispatched b).expire b).cast.systems = s.systems ∧
      ((s.dispatched b).expire b).cast.ran = 0 := by
  have hr := s.opened.receiveFrames_cast s.link.toScene.waiting
  rw [Turn.expire_cast, dispatched, Turn.dispatch_cast]
  exact ⟨congrArg Cast.systems hr, congrArg Cast.ran hr⟩

theorem opening_enrolled (b : Behaviour κ σ) (hf : s.failure = none) (hs : s.Staffed list) :
    Enrolled Schedule.place Schedule.Fits ((s.dispatched b).expire b).world.systems
      ((s.dispatched b).expire b).session.systems
      (((s.opening b).filterMap Happening.systemOrder?).foldl Order.enlist list) := by
  have hm : ((s.dispatched b).expire b).session.systems = s.systems := (opening_cast b s).1
  rw [hm]
  exact (opening_trail b hf).systems (fun x hx => (mem_opening hx).elim
    (fun h => (Happening.before_convene (.inl h)).1)
    fun h => (Happening.before_convene (.inr h)).1) hs

theorem Staffed.tick (hs : s.Staffed list) (b : Behaviour κ σ) (dt : Binary64) :
    (s.tick b dt).2.Staffed
      (((s.deeds b (.tick dt)).filterMap Happening.systemOrder?).foldl Order.enlist list) := by
  by_cases hn : s.isFailed = true
  · rw [deeds, if_pos hn, tick_failed hn]
    exact hs
  have hf : s.failure = none := Option.not_isSome_iff_eq_none.mp hn
  have hm := congrArg Prod.fst (tick_members b dt hf)
  have hw : (s.tick b dt).2.world = (s.step b dt).2.world :=
    congrArg Moment.world (tick_moment b dt hf)
  by_cases hd : (Turn.begin s).receiveAll.session.link.toScene.isDry = true
  · have hh := tick_trail b dt hf
    rw [stepDeeds_dry b dt hd] at hh
    rw [deeds, if_neg hn, stepDeeds_dry b dt hd, Staffed]
    rw [step_dry b dt hd] at hm
    have hu : (s.tick b dt).2.systems = s.systems :=
      hm.trans (congrArg Prod.fst s.receiveAll_members)
    rw [hu]
    refine hh.systems (fun x hx => ?_) hs
    obtain hx | hx := List.mem_append.mp hx
    · exact (Happening.before_convene (.inl (intake_inIntake hx))).1
    · rw [List.mem_singleton.mp hx]
      rfl
  · have he := Turn.update_enrolled b dt (opening_enrolled b hf hs)
    rw [step_wet b dt hd] at hm hw
    have hu : (s.tick b dt).2.systems = (s.worked b dt).session.systems :=
      hm.trans (congrArg Prod.fst (flush_members _))
    have hv : (s.tick b dt).2.world.systems = (s.worked b dt).world.systems := by
      rw [hw, Turn.flush_world]
    rw [Staffed, hu, hv, deeds_opening hf hd, List.filterMap_append, List.filterMap_append,
      List.foldl_append, List.foldl_append]
    exact he

theorem Staffed.apply (hs : s.Staffed list) (b : Behaviour κ σ) (m : Move κ σ) :
    (s.apply b m).Staffed
      (((s.deeds b m).filterMap Happening.systemOrder?).foldl Order.enlist list) := by
  obtain ⟨a, rfl⟩ | ⟨dt, rfl⟩ | ⟨hd, memory, journal, paused, link, he, _⟩ := apply_cases b s m
  · refine (act_trail s a).systems (fun x hx => ?_) hs
    rw [List.mem_singleton.mp hx]
    rfl
  · exact hs.tick b dt
  · rw [hd, he]
    exact hs

theorem Staffed.after (hs : s.Staffed list) (b : Behaviour κ σ) (ms : List (Move κ σ)) :
    (s.after b ms).Staffed
      (((s.history b ms).filterMap Happening.systemOrder?).foldl Order.enlist list) := by
  induction ms generalizing s list with
  | nil => exact hs
  | cons m ms ih =>
    rw [history, List.filterMap_append, List.foldl_append]
    exact ih (hs.apply b m)

theorem Staffed.start (config : Config) (types : Registry) (memory : σ) :
    (Session.start config ({ types } : World κ) memory).Staffed [] :=
  .fresh ⟨.nil, .nil⟩

/-- A tick in which the systems run: what happens before and from then on, and who runs. -/
structure Running (b : Behaviour κ σ) (dt : Binary64) (s : Session κ σ)
    (list : Members (System κ)) (g g' : History κ) (ms : Members (System κ)) : Prop where
  deeds : s.deeds b (.tick dt) = g ++ .convene :: g'
  before : ∀ x ∈ g, x.isConvene = false ∧ x.updated? = none
  after : ∀ x ∈ g', x.isConvene = false
  ran : g'.updated = ms.map (·.1)
  fits : Schedule.Fits ms ((g.filterMap Happening.systemOrder?).foldl Order.enlist list)
  ordered : ((g.filterMap Happening.systemOrder?).foldl Order.enlist list).Pairwise
    (·.1.number < ·.1.number)
  unpaused : s.paused = false
  report : ∀ report, (s.tick b dt).1 = .ok report → report.systems = ms.length

theorem expired_paused (b : Behaviour κ σ) (s : Session κ σ) :
    ((s.dispatched b).expire b).session.paused = s.paused := by
  have hb := (Turn.expire_backdrop b _).trans (dispatched_backdrop b s)
  exact congrArg Backdrop.paused hb

theorem running (b : Behaviour κ σ) (dt : Binary64) (hf : s.failure = none)
    (hd : ¬ (Turn.begin s).receiveAll.session.link.toScene.isDry = true)
    (hp : s.paused = false) (hs : s.Staffed list) :
    ∃ g', s.Running b dt list (s.opening b) g' ((s.dispatched b).expire b).convened.1 := by
  have ht := (expired_paused b s).trans hp
  have he := opening_enrolled b hf hs
  refine ⟨Schedule.deeds b dt ((s.dispatched b).expire b).convened.1
    ((s.dispatched b).expire b).convened.2 ++ [(s.worked b dt).telling], ?_,
    fun x hx => ?_, fun x hx => ?_, ?_, he.fits, he.ordered, hp, fun report hk => ?_⟩
  · rw [deeds_opening hf hd, Turn.updateDeeds_running b dt ht, List.append_assoc]
    rfl
  · obtain h | h := mem_opening hx
    · exact Happening.before_convene (.inl h)
    · exact Happening.before_convene (.inr h)
  · obtain hx | hx := List.mem_append.mp hx
    · obtain ⟨a, reply, rfl⟩ | ⟨h, rfl⟩ := Schedule.mem_deeds hx <;> rfl
    · rw [List.mem_singleton.mp hx]
      rfl
  · rw [History.updated_append, History.updated, Schedule.deeds_filterMap fun _ _ => rfl]
    exact (List.append_nil _).trans (List.filterMap_eq_map ▸ rfl)
  · have hr := congrArg Report.systems (flush_ok (tick_flush hk).1)
    exact hr.trans (Turn.update_running b dt ht).2.2

structure Still (b : Behaviour κ σ) (dt : Binary64) (s : Session κ σ) : Prop where
  deeds : ∀ x ∈ s.deeds b (.tick dt), x.isConvene = false ∧ x.updated? = none
  report : ∀ report, (s.tick b dt).1 = .ok report → s.paused = true ∧ report.systems = 0

theorem still (b : Behaviour κ σ) (dt : Binary64) (hf : s.failure = none)
    (hd : ¬ (Turn.begin s).receiveAll.session.link.toScene.isDry = true)
    (hp : s.paused = true) : s.Still b dt := by
  obtain ⟨hn, hu⟩ := Turn.update_paused b dt ((expired_paused b s).trans hp)
  refine ⟨fun x hx => ?_, fun report hk => ⟨hp, ?_⟩⟩
  · rw [deeds_opening hf hd, hn, List.append_nil] at hx
    obtain hx | hx := List.mem_append.mp hx
    · obtain h | h := mem_opening hx
      · exact Happening.before_convene (.inl h)
      · exact Happening.before_convene (.inr h)
    · rw [List.mem_singleton.mp hx]
      exact ⟨rfl, rfl⟩
  · have hw : s.worked b dt = (s.dispatched b).expire b := hu
    have hr := congrArg Report.systems (flush_ok (tick_flush hk).1)
    rw [hw] at hr
    exact hr.trans (opening_cast b s).2

theorem still_or_running (b : Behaviour κ σ) (dt : Binary64) (hs : s.Staffed list) :
    s.Still b dt ∨ ∃ g g' ms, s.Running b dt list g g' ms := by
  by_cases hn : s.isFailed = true
  · refine .inl ⟨fun x hx => ?_, fun report hk => ?_⟩
    · rw [deeds, if_pos hn] at hx
      cases hx
    · rw [isFailed, (tick_isOk (isOk_of_tick hk)).1] at hn
      cases hn
  have hf : s.failure = none := Option.not_isSome_iff_eq_none.mp hn
  by_cases hd : (Turn.begin s).receiveAll.session.link.toScene.isDry = true
  · refine .inl ⟨fun x hx => ?_, fun report hk => ?_⟩
    · rw [deeds, if_neg hn, stepDeeds_dry b dt hd] at hx
      obtain hx | hx := List.mem_append.mp hx
      · exact Happening.before_convene (.inl (intake_inIntake hx))
      · rw [List.mem_singleton.mp hx]
        exact ⟨rfl, rfl⟩
    · exact absurd hd (not_dry (tick_isOk (isOk_of_tick hk)).2)
  cases hp : s.paused with
  | true => exact .inl (still b dt hf hd hp)
  | false =>
    obtain ⟨g', hr⟩ := running b dt hf hd hp hs
    exact .inr ⟨_, g', _, hr⟩

end

/-- The systems that run in a tick are those that are registered by then and not taken out, each
once, in ascending order of priority, and those of one priority in the order of registration. In a
tick of a paused session none run; in every other that succeeds they do. -/
theorem systems_run_in_order (b : Behaviour κ σ) (config : Config) (types : Registry) (memory : σ)
    (moves : List (Move κ σ)) (dt : Binary64) :
    let s := start config ({ types } : World κ) memory
    let h := s.history b moves
    let u := s.after b moves
    let d := u.deeds b (.tick dt)
    (∀ g g' : History κ, d = g ++ .convene :: g' → g.updated = [] ∧
      (h ++ g).systems.Pairwise (·.1.number < ·.1.number) ∧
      ∃ order : List (Handle (System κ) × Int), order.Perm ((h ++ g).systems.map System.rank) ∧
        order.Pairwise Precedes ∧ g'.updated = order.map (·.1)) ∧
    (.convene ∉ d → d.updated = []) ∧
    ∀ report, (u.tick b dt).1 = .ok report →
      report.systems = d.updated.length ∧ (.convene ∈ d ↔ u.paused = false) := by
  intro s h u d
  have hs : u.Staffed h.systems := (Staffed.start config types memory).after b moves
  obtain hu | ⟨g, g', ms, hr⟩ := still_or_running b dt hs
  · have hn : .convene ∉ d := fun hc => Bool.noConfusion (hu.deeds _ hc).1
    have hd : d.updated = [] := List.filterMap_eq_nil_iff.mpr fun x hx => (hu.deeds x hx).2
    refine ⟨fun g g' he => absurd (he ▸ List.mem_append_right _ (.head _)) hn, fun _ => hd,
      fun report hk => ?_⟩
    obtain ⟨hp, hn'⟩ := hu.report report hk
    rw [hd, hn', hp]
    exact ⟨rfl, iff_of_false hn Bool.noConfusion⟩
  · have hg : .convene ∉ g := fun hc => Bool.noConfusion (hr.before _ hc).1
    have hg' : .convene ∉ g' := fun hc => Bool.noConfusion (hr.after _ hc)
    have hb : g.updated = [] := List.filterMap_eq_nil_iff.mpr fun x hx => (hr.before x hx).2
    have hd : d = g ++ .convene :: g' := hr.deeds
    have hm : .convene ∈ d := hd ▸ List.mem_append_right _ (.head _)
    have hl : (h ++ g).systems =
        (g.filterMap Happening.systemOrder?).foldl Order.enlist h.systems :=
      History.systems_append h g
    have hn : d.updated = ms.map (·.1) := by
      rw [hd, History.updated_append, hb]
      exact hr.ran
    refine ⟨fun g₁ g₁' he => ?_, fun hc => absurd hm hc, fun report hk => ⟨?_, ?_⟩⟩
    · have hs := hd.symm.trans he
      obtain ⟨rfl, _, rfl⟩ := (List.append_cons_inj_of_notMem hg hg').mp hs
      rw [hl]
      refine ⟨hb, hr.ordered, ms.map System.rank, hr.fits.same, hr.fits.order, ?_⟩
      rw [hr.ran, List.map_map]
      rfl
    · rw [hr.report report hk, hn, List.length_map]
    · exact iff_of_true hm hr.unpaused

/-- Of three systems one has the lowest priority, and the first of the other two takes out the
second, which runs all the same. -/
theorem systems_run_in_order_retired :
    let s := start {} ({ types := ∅ } : World (Option Nat)) ()
    let u := s.after .retiring [.act (.register ⟨"a", 5, some 3⟩),
      .act (.register ⟨"b", -1, none⟩), .act (.register ⟨"c", 5, none⟩)]
    ∃ (g g' : History (Option Nat)) (order : List (Handle (System (Option Nat)) × Int))
      (report : Report), u.deeds .retiring (.tick ⟨0⟩) = g ++ .convene :: g' ∧
      (u.tick .retiring ⟨0⟩).1 = .ok report ∧ report.systems = 3 ∧ order.Pairwise Precedes ∧
      order.map (·.1.number) = [2, 1, 3] := by
  intro s u
  obtain ⟨hp, _, hr⟩ := systems_run_in_order .retiring {} ∅ ()
    [.act (.register ⟨"a", 5, some 3⟩), .act (.register ⟨"b", -1, none⟩),
      .act (.register ⟨"c", 5, none⟩)] ⟨0⟩
  obtain ⟨report, hk⟩ := exists_report .retiring ⟨0⟩ u (by decide +kernel)
  obtain ⟨hn, hc⟩ := hr report hk
  obtain ⟨g, g', hd⟩ := List.append_of_mem (hc.mpr (by decide +kernel))
  obtain ⟨hg, _, order, _, ho, hu⟩ := hp g g' hd
  have hl : (u.deeds .retiring (.tick ⟨0⟩)).updated.map (·.number) = [2, 1, 3] := by
    decide +kernel
  refine ⟨g, g', order, report, hd, hk, ?_, ho, ?_⟩
  · rw [hn, ← List.length_map (·.number)]
    exact congrArg List.length hl
  · have hs : (u.deeds .retiring (.tick ⟨0⟩)).updated = order.map (·.1) := by
      rw [show u.deeds .retiring (.tick ⟨0⟩) = _ from hd, History.updated_append, hg]
      exact hu
    rw [hs, List.map_map] at hl
    exact hl

end Session

end Diorama
