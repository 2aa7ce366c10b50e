import Diorama.Proofs.Calls
import Diorama.Proofs.SideBySide

/-!
What a failure of code leads to: it is written to the log, it is counted and reported, and that is
all. Two runs in which the same is done, but not every call ends alike, do not come apart.

What code keeps in memory for itself may also differ. It is compared by a relation `same`, which
takes two memories to be the same if code does the same with them.
-/

namespace Diorama

variable {κ σ : Type}

variable {same : σ → σ → Prop}

/-- Code does the same wherever it is called, and goes on as the same code with what `same` takes to
be the same memory. How its calls end may differ. -/
structure Behaviour.Parallel (same : σ → σ → Prop) (b b' : Behaviour κ σ) : Prop where
  refl (memory : σ) : same memory memory
  deeds (s : Stage κ σ) {memory : σ} (hm : same s.memory memory) (code : κ) (o : Occasion) :
    s.deeds b code o = { s with memory }.deeds b' code o
  self (s : Stage κ σ) {memory : σ} (hm : same s.memory memory) (code : κ) (o : Occasion) :
    (s.call b code o).self = ({ s with memory }.call b' code o).self
  memory (s : Stage κ σ) {memory : σ} (hm : same s.memory memory) (code : κ) (o : Occasion) :
    same (s.call b code o).stage.memory ({ s with memory }.call b' code o).stage.memory

def Behaviour.making (m : Nat) (ending : Ending) : Behaviour Unit Nat :=
  fun _ _ n => .act .create fun _ => .finish () (n + m) ending

theorem Behaviour.making_parallel (m n : Nat) (ending ending' : Ending) :
    (making m ending).Parallel (fun _ _ => True) (making n ending') where
  refl _ := trivial
  deeds _ _ _ _ _ := rfl
  self _ _ _ _ _ := rfl
  memory _ _ _ _ _ := trivial

theorem Stage.call_world (s : Stage κ σ) (b : Behaviour κ σ) (code : κ) (o : Occasion) :
    (s.call b code o).stage.world = (s.deeds b code o).foldl Happening.replay s.world := by
  have along (p : Program κ σ) (s : Stage κ σ) :
      (p.run s).stage.world = (p.deeds s.world).foldl Happening.replay s.world := by
    induction p generalizing s with
    | finish self memory ending => rfl
    | act a next ih => exact ih (s.world.perform a).1 { s with world := (s.world.perform a).2 }
    | look next ih => exact ih s.world s
  exact along (b code o s.memory) s

def Stage.Alike (same : σ → σ → Prop) (s s' : Stage κ σ) : Prop :=
  ∃ memory journal, same s.memory memory ∧ s' = { s with memory, journal }

def Session.Alike (same : σ → σ → Prop) (s s' : Session κ σ) : Prop :=
  ∃ memory journal systemFailures handlerFailures, same s.stage.memory memory ∧ s' = { s with
    stage := { s.stage with memory, journal }
    stats := { s.stats with systemFailures, handlerFailures } }

/-- All is the same but what code keeps for itself. -/
def Likeness.ofMemory (same : σ → σ → Prop) : Likeness κ σ σ (Happening κ) where
  changes := Eq
  memory := same
  view := some
  told := rfl
  sync h _ _ := h ▸ rfl
  flush h _ _ := h ▸ rfl

namespace Likeness

@[simp] theorem seen_ofMemory (h : History κ) : (ofMemory same).seen h = h := List.filterMap_some

theorem ofStage_ofMemory {s s' : Stage κ σ} : (ofMemory same).OfStage s s' ↔ s.Alike same s' := by
  constructor
  · rintro ⟨_, memory, journal, rfl, hm, rfl⟩
    exact ⟨memory, journal, hm, rfl⟩
  · rintro ⟨memory, journal, hm, rfl⟩
    exact ⟨_, memory, journal, rfl, hm, rfl⟩

theorem ofSession_ofMemory {s s' : Session κ σ} :
    (ofMemory same).OfSession s s' ↔ s.Alike same s' := by
  constructor
  · rintro ⟨stage, m, n, hs, rfl⟩
    obtain ⟨memory, journal, hm, rfl⟩ := ofStage_ofMemory.mp hs
    exact ⟨memory, journal, m, n, hm, rfl⟩
  · rintro ⟨memory, journal, m, n, hm, rfl⟩
    exact ⟨_, m, n, ofStage_ofMemory.mpr ⟨memory, journal, hm, rfl⟩, rfl⟩

end Likeness

namespace Behaviour.Parallel

variable {b b' : Behaviour κ σ} (hb : b.Parallel same b')
include hb

theorem ofCode : (Likeness.ofMemory same).OfCode b b' where
  seen hs code o := by
    obtain ⟨memory, journal, hm, rfl⟩ := Likeness.ofStage_ofMemory.mp hs
    exact congrArg _ (hb.deeds _ hm code o)
  self {s _} hs code o := by
    obtain ⟨memory, journal, hm, rfl⟩ := Likeness.ofStage_ofMemory.mp hs
    exact (congrArg Return.self (Stage.call_journal { s with memory } b' code o journal)).trans
      (hb.self s hm code o).symm
  stage {s _} hs code o := by
    obtain ⟨memory, journal, hm, rfl⟩ := Likeness.ofStage_ofMemory.mp hs
    have hw : ({ s with memory }.call b' code o).stage.world = (s.call b code o).stage.world := by
      rw [Stage.call_world, Stage.call_world, hb.deeds s hm code o]
    refine Likeness.ofStage_ofMemory.mpr ⟨_, journal, hb.memory s hm code o, ?_⟩
    exact (congrArg Return.stage (Stage.call_journal { s with memory } b' code o journal)).trans
      (congrArg (Stage.mk · _ journal) hw)

theorem apply {s s' : Session κ σ} (hs : s.Alike same s') (m : Move κ σ) :
    (s.apply b m).Alike same (s'.apply b' m) ∧ s.deeds b m = s'.deeds b' m := by
  have along (hm : (Likeness.ofMemory same).OfMove m m) :
      (s.apply b m).Alike same (s'.apply b' m) ∧ s.deeds b m = s'.deeds b' m := by
    have ha := hb.ofCode.apply (Likeness.ofSession_ofMemory.mpr hs) hm
    rwa [Likeness.ofSession_ofMemory, Likeness.seen_ofMemory, Likeness.seen_ofMemory] at ha
  cases m with
  | act a =>
    obtain ⟨v, j, m, n, hv, rfl⟩ := hs
    exact ⟨⟨_, _, _, _, hv, rfl⟩, rfl⟩
  | remember memory => exact along (.remember (hb.refl memory))
  | pause => exact along .pause
  | resume => exact along .resume
  | tick dt => exact along (.tick dt)
  | send frame => exact along (.send frame)
  | receive => exact along .receive
  | mute => exact along .mute
  | ignore => exact along .ignore

theorem after {s s' : Session κ σ} (hs : s.Alike same s') (ms : List (Move κ σ)) :
    (s.after b ms).Alike same (s'.after b' ms) ∧ s.history b ms = s'.history b' ms := by
  induction ms generalizing s s' with
  | nil => exact ⟨hs, rfl⟩
  | cons m ms ih =>
    obtain ⟨ha, hd⟩ := hb.apply hs m
    obtain ⟨hu, hh⟩ := ih ha
    refine ⟨hu, ?_⟩
    rw [Session.history, Session.history, hd, hh]

end Behaviour.Parallel

namespace Session

/-- What is said of the calls in a tick after some history: they are those of the tick, systems are
called by the names under which they were registered, and the report tells of those that failed. -/
structure Reported (b : Behaviour κ σ) (dt : Binary64) (s : Session κ σ) (h : History κ) :
    Prop where
  called : (s.calls b dt).map Call.happening = (s.deeds b (.tick dt)).filter Happening.isCall
  names (k : Handle (System κ)) (name : String) (ending : Ending) :
    .update k name ending ∈ s.calls b dt → (h ++ s.deeds b (.tick dt) : History κ).Names k name
  report (report : Report) : (s.tick b dt).1 = .ok report → report.TellsOf (s.calls b dt)

theorem reported (b : Behaviour κ σ) (config : Config) (types : Registry) (memory : σ)
    (moves : List (Move κ σ)) (dt : Binary64) :
    let s := start config ({ types } : World κ) memory
    (s.after b moves).Reported b dt (s.history b moves) := by
  intro s
  have hs : (s.after b moves).Named (s.history b moves) :=
    (Named.start config types memory).after b moves
  exact ⟨calls_happening b dt _, fun _ _ _ => hs.calls, fun _ => report_tellsOf⟩

/-- Whether calls of code fail makes no difference to a run: the same is called in the same order
and does the same, the host is told the same, and the session is the same, but for the log, the
counted failures and what code keeps for itself. The report of a tick tells of the calls that failed
in it, and is the same in all else. -/
theorem failures_stay_apart (same : σ → σ → Prop) (b b' : Behaviour κ σ) (hb : b.Parallel same b')
    (config : Config) (types : Registry) (memory : σ) (moves : List (Move κ σ)) (dt : Binary64) :
    let s := start config ({ types } : World κ) memory
    let u := s.after b moves
    let u' := s.after b' moves
    s.history b moves = s.history b' moves ∧ u.Alike same u' ∧
      u.deeds b (.tick dt) = u'.deeds b' (.tick dt) ∧
      Report.AlikeResult (u.tick b dt).1 (u'.tick b' dt).1 ∧
      u.Reported b dt (s.history b moves) ∧ u'.Reported b' dt (s.history b' moves) := by
  intro s u u'
  have hs : s.Alike same s := ⟨_, _, _, _, hb.refl memory, rfl⟩
  obtain ⟨hu, hh⟩ := hb.after hs moves
  obtain ⟨hr, _, hd⟩ := hb.ofCode.tick (Likeness.ofSession_ofMemory.mpr hu) dt
  rw [Likeness.seen_ofMemory, Likeness.seen_ofMemory] at hd
  exact ⟨hh, hu, hd, hr, reported b config types memory moves dt,
    reported b' config types memory moves dt⟩

/-- Two systems, a subscriber and the code of a query each make an entity. Where all of them break
off before they count, the host is told the same, and the report tells of the four. -/
theorem failures_stay_apart_broken :
    let s := start {} ({ types := ∅ } : World Unit) 0
    let b := Behaviour.making 1 .returned
    let b' := Behaviour.making 0 (.panicked .other)
    let ms : List (Move Unit Nat) := [.act (.register ⟨"a", 0, ()⟩),
      .act (.subscribe ⟨"e", none, ()⟩), .act (.ask "q" .null ()), .tick ⟨0⟩,
      .act (.register ⟨"b", 0, ()⟩),
      .send "\x7b\"type\":\"event\",\"eventName\":\"e\"\x7d",
      .send "\x7b\"type\":\"queryResponse\",\"requestId\":\"q1\"\x7d"]
    let u := s.after b ms
    let u' := s.after b' ms
    u.Alike (fun _ _ => True) u' ∧ u.stage.memory = 1 ∧ u'.stage.memory = 0 ∧
      ∃ report report', (u.tick b ⟨0⟩).1 = .ok report ∧ (u'.tick b' ⟨0⟩).1 = .ok report' ∧
        report.Alike report' ∧ report.failures = [] ∧
        report'.failures = [.system "a" "panicked: unknown panic",
          .system "b" "panicked: unknown panic"] ∧ report'.handlerFailures = 2 := by
  intro s b b' ms u u'
  obtain ⟨_, hu, _, hr, hc, hc'⟩ := failures_stay_apart _ b b' (Behaviour.making_parallel ..) {} ∅ 0
    ms ⟨0⟩
  obtain ⟨report, hk⟩ := exists_report b ⟨0⟩ u (by decide +kernel)
  obtain ⟨report', hk'⟩ := exists_report b' ⟨0⟩ u' (by decide +kernel)
  have ht := hc.report report hk
  have ht' := hc'.report report' hk'
  have ha : report.Alike report' := by
    rw [hk, hk'] at hr
    cases hr with
    | ok h => exact h
  have hs : (u.calls b ⟨0⟩).filterMap Call.failure? = [] := by decide +kernel
  have hs' : (u'.calls b' ⟨0⟩).filterMap Call.failure? = [.system "a" "panicked: unknown panic",
    .system "b" "panicked: unknown panic"] := by decide +kernel
  have hn : (u'.calls b' ⟨0⟩).countP Call.isHandlerFailure = 2 := by decide +kernel
  have hm : u.stage.memory = 1 := by decide +kernel
  have hm' : u'.stage.memory = 0 := by decide +kernel
  exact ⟨hu, hm, hm', report, report', hk, hk', ha, ht.systems.trans hs, ht'.systems.trans hs',
    ht'.handlers.trans hn⟩

end Session

end Diorama
