import Diorama.Log.Logger
import Diorama.Proofs.Calls
import Diorama.Proofs.Replay
import Mathlib.Data.List.DropRight
import Mathlib.Data.List.TakeWhile

namespace Diorama

variable {κ σ : Type}

theorem unquoted_sublist (s : List Char) : (unquoted s).Sublist s :=
  (List.rdropWhile_prefix _ _).sublist.trans (List.dropWhile_suffix _).sublist

def hasOuterQuote (s : String) : Bool :=
  s.toList.head? = some '"' || s.toList.getLast? = some '"'

theorem unquoted_eq_self_iff {s : List Char} :
    unquoted s = s ↔ s.head? ≠ some '"' ∧ s.getLast? ≠ some '"' := by
  let p : Char → Bool := (· = '"')
  have hd : s.dropWhile p = s ↔ s.head? ≠ some '"' := by
    rw [List.dropWhile_eq_self_iff]
    cases s <;> simp [p]
  have hr : s.rdropWhile p = s ↔ s.getLast? ≠ some '"' := by
    rw [List.rdropWhile_eq_self_iff]
    cases s <;> simp [p, List.getLast?_eq_some_getLast]
  rw [← hd, ← hr]
  change (s.dropWhile p).rdropWhile p = s ↔ _
  constructor
  · intro h
    have hs : s.dropWhile p = s := by
      refine (List.dropWhile_suffix p).eq_of_length_le ?_
      rw [← congrArg List.length h]
      exact (List.rdropWhile_prefix p _).length_le
    rw [hs] at h
    exact ⟨hs, h⟩
  · rintro ⟨hs, h⟩
    rw [hs, h]

namespace Call

def part : Call κ → String
  | update _ name _ => name
  | notify _ e _ => "on:" ++ e.name
  | answer id .. => "query:" ++ id.text

/-- What is said of a call that went wrong. -/
def complaint? : Call κ → Option String
  | update _ _ ending => ending.reason?.map ("update failed: " ++ ·)
  | notify _ _ ending => ending.reason?.map ("event handler failed: " ++ ·)
  | answer _ _ _ (.panicked p) => some ("query callback panicked: " ++ p.message)
  | answer .. => none

def caller : Call κ → String
  | update .. => Target.systems
  | notify .. => Target.events
  | answer .. => Target.session

/-- What goes into the log for a call that went wrong. -/
def event? (scene : String) (c : Call κ) : Option Event :=
  c.complaint?.map (.speak .error c.caller scene (.plain c.part))

theorem event?_isSome (scene : String) (c : Call κ) : (c.event? scene).isSome = c.failed := by
  rw [event?, Option.isSome_map]
  cases c with
  | update h name ending => cases ending <;> rfl
  | notify h e ending => cases ending <;> rfl
  | answer id code o ending => cases ending <;> rfl

end Call

/-- It is said on behalf of a part of a scene that is named by a value. What a session says of
itself is not. -/
def Event.isComplaint (e : Event) : Bool :=
  e.fields.any fun
    | ("system", .plain _) => true
    | _ => false

theorem Call.isComplaint {scene : String} {c : Call κ} {e : Event} (h : c.event? scene = some e) :
    e.isComplaint = true := by
  obtain ⟨text, _, rfl⟩ := Option.map_eq_some_iff.mp h
  rfl

theorem Drop.report_isComplaint (target : String) (d : Drop) :
    (d.report target).isComplaint = false := by
  cases d <;> rfl

theorem Call.filter_events (scene : String) (cs : List (Call κ)) :
    (cs.filterMap (event? scene)).filter Event.isComplaint = cs.filterMap (event? scene) :=
  List.filter_eq_self.mpr fun e he => by
    obtain ⟨c, _, hc⟩ := List.mem_filterMap.mp he
    exact isComplaint hc

/-- A log goes on from one to another with just these complaints, and with what is none. -/
def Complains (before after complaints : List Event) : Prop :=
  ∃ es, after = before ++ es ∧ es.filter Event.isComplaint = complaints

namespace Complains

variable {j j₁ j₂ es fs : List Event}

theorem nil : Complains j j [] := ⟨[], (List.append_nil j).symm, rfl⟩

theorem trans (he : Complains j j₁ es) (hf : Complains j₁ j₂ fs) : Complains j j₂ (es ++ fs) := by
  obtain ⟨es, rfl, rfl⟩ := he
  obtain ⟨fs, rfl, rfl⟩ := hf
  exact ⟨es ++ fs, List.append_assoc .., List.filter_append ..⟩

theorem aside {e : Event} (he : e.isComplaint = false) : Complains j (j ++ [e]) [] :=
  ⟨[e], rfl, List.filter_eq_nil_iff.mpr fun x hx => by
    rw [List.mem_singleton.mp hx, he]
    exact Bool.false_ne_true⟩

theorem calls {scene : String} {cs : List (Call κ)}
    (h : j₁ = j ++ cs.filterMap (Call.event? scene)) :
    Complains j j₁ (cs.filterMap (Call.event? scene)) := ⟨_, h, Call.filter_events scene cs⟩

end Complains

theorem Stage.journal_call (s : Stage κ σ) (b : Behaviour κ σ) (code : κ) (o : Occasion) :
    (s.call b code o).stage.journal = s.journal :=
  congrArg (·.stage.journal) (Stage.call_journal s b code o s.journal)

theorem Schedule.pass_journal (b : Behaviour κ σ) (scene : String) (dt : Binary64)
    (ms : Members (System κ)) (s : Stage κ σ) :
    (pass b scene dt ms s).stage.journal =
      s.journal ++ (runs b dt ms s).filterMap (Call.event? scene) := by
  induction ms generalizing s with
  | nil => exact (List.append_nil _).symm
  | cons m ms ih =>
    simp only [pass, runs, List.filterMap_cons, Call.event?, Call.complaint?]
    cases hr : (s.call b m.2.code (.update dt)).ending.reason? with
    | none =>
      exact (ih _).trans (congrArg (· ++ _) (Stage.journal_call s b _ _))
    | some reason =>
      rw [ih, Stage.log, runs_journal]
      simp only [Stage.journal_call, List.append_assoc]
      rfl

theorem Dispatch.deliver_journal (b : Behaviour κ σ) (scene : String) (e : HostEvent)
    (ms : Members (Subscription κ)) (s : Stage κ σ) :
    (deliver b scene e ms s).stage.journal =
      s.journal ++ (runs b e ms s).filterMap (Call.event? scene) := by
  induction ms generalizing s with
  | nil => exact (List.append_nil _).symm
  | cons m ms ih =>
    simp only [deliver, runs]
    split
    · simp only [List.filterMap_cons, Call.event?, Call.complaint?]
      cases hr : (s.call b m.2.code (.event e)).ending.reason? with
      | none => exact (ih _).trans (congrArg (· ++ _) (Stage.journal_call s b _ _))
      | some reason =>
        rw [ih, Stage.log, runs_journal]
        simp only [Stage.journal_call, List.append_assoc]
        rfl
    · exact ih s

namespace Turn

variable (b : Behaviour κ σ) (t : Turn κ σ)

def journal : List Event := t.session.stage.journal

theorem complete_journal (id : RequestId) (code : κ) (o : Outcome) :
    (t.complete b id code o).journal = t.journal ++
      [.answer id code o (t.session.stage.call b code (.outcome o)).ending].filterMap
        (Call.event? t.session.config.sceneId) := by
  have hj := Stage.journal_call t.session.stage b code (.outcome o)
  rw [complete]
  cases (t.session.stage.call b code (.outcome o)).ending with
  | panicked p => exact congrArg (· ++ [_]) hj
  | _ => exact hj.trans (List.append_nil _).symm

theorem handle_complains (a : Arrival) :
    Complains t.journal (t.handle b a).journal
      ((t.handleCalls b a).filterMap (Call.event? t.session.config.sceneId)) := by
  cases a with
  | event e =>
    simp only [handle, handleCalls]
    cases e.entity.filter fun x => !t.world.isAlive x with
    | some x => exact .aside (Drop.report_isComplaint ..)
    | none =>
      exact .calls (Dispatch.deliver_journal b t.session.config.sceneId e t.session.subscriptions
        t.session.stage)
  | response id o =>
    simp only [handle, handleCalls]
    rcases t.world.queries.resolve id with ⟨_ | code, queries⟩
    · exact .aside (Drop.report_isComplaint ..)
    · exact .calls (complete_journal b
        { t with session := t.session.setWorld { t.world with queries } } id code o)

theorem timeOut_complains (q : RequestId × κ) :
    Complains t.journal (t.timeOut b q).journal
      ((t.timeOutCalls b q).filterMap (Call.event? t.session.config.sceneId)) := by
  let e : Event := .say .debug Target.session s!"Query '{q.1.text}' timed out"
  have hc := complete_journal b (t.log e) q.1 q.2 .timedOut
  have he : ((t.log e).session.stage.call b q.2 (.outcome .timedOut)).ending =
      (t.session.stage.call b q.2 (.outcome .timedOut)).ending := by
    rw [log, Session.log, Stage.log, Stage.call_journal]
  rw [he] at hc
  have ha : Complains t.journal (t.log e).journal [] := .aside rfl
  exact ha.trans (.calls hc)

theorem foldl_complains {α : Type} {deal : Turn κ σ → α → Turn κ σ}
    {calls : Turn κ σ → α → List (Call κ)} (hk : ∀ t a, (deal t a).backdrop = t.backdrop)
    (hd : ∀ t a, Complains t.journal (deal t a).journal
      ((calls t a).filterMap (Call.event? t.session.config.sceneId))) (as : List α) :
    Complains t.journal (as.foldl deal t).journal
      ((t.callsAlong deal calls as).filterMap (Call.event? t.session.config.sceneId)) := by
  induction as generalizing t with
  | nil => exact .nil
  | cons a as ih =>
    have hc : (deal t a).session.config = t.session.config := congrArg Backdrop.config (hk t a)
    have hr := ih (deal t a)
    rw [hc] at hr
    rw [callsAlong, List.filterMap_append]
    exact (hd t a).trans hr

theorem dispatch_complains :
    Complains t.journal (t.dispatch b).journal
      ((t.dispatchCalls b).filterMap (Call.event? t.session.config.sceneId)) :=
  t.gathered.foldl_complains (handle_backdrop b) (handle_complains b) t.session.inbox

theorem expire_complains :
    Complains t.journal (t.expire b).journal
      ((t.expireCalls b).filterMap (Call.event? t.session.config.sceneId)) :=
  t.lapsed.2.foldl_complains (timeOut_backdrop b) (timeOut_complains b) t.lapsed.1

theorem update_complains (dt : Binary64) :
    Complains t.journal (t.update b dt).journal
      ((t.updateCalls b dt).filterMap (Call.event? t.session.config.sceneId)) := by
  rw [update, updateCalls]
  split
  · exact .nil
  · exact .calls (Schedule.pass_journal b t.session.config.sceneId dt t.convened.1 t.convened.2)

theorem receive_complains (frame : String) : Complains t.journal (t.receive frame).journal [] := by
  rw [receive]
  split
  · exact .nil
  · exact .aside (Drop.report_isComplaint ..)

theorem receiveFrames_complains (frames : List String) :
    Complains t.journal (frames.foldl receive t).journal [] := by
  induction frames generalizing t with
  | nil => exact .nil
  | cons frame frames ih => exact (t.receive_complains frame).trans (ih (t.receive frame))

theorem flush_complains : Complains t.journal t.flush.2.stage.journal [] := by
  simp only [flush]
  split
  · split
    · exact .aside rfl
    · exact .nil
  · exact .nil

end Turn

namespace Session

variable (b : Behaviour κ σ) (s : Session κ σ)

theorem step_complains (dt : Binary64) (hn : ¬ s.isFailed = true) :
    Complains s.stage.journal (s.step b dt).2.stage.journal
      ((s.calls b dt).filterMap (Call.event? s.config.sceneId)) := by
  have hr : Complains s.stage.journal (Turn.begin s).receiveAll.journal [] :=
    s.opened.receiveFrames_complains s.link.toScene.waiting
  by_cases hd : (Turn.begin s).receiveAll.session.link.toScene.isDry = true
  · rw [step_dry b dt hd, calls, if_pos (by rw [hd, Bool.or_true])]
    exact hr
  · rw [step_wet b dt hd, calls, if_neg (by rw [Bool.or_eq_true]; exact not_or_intro hn hd)]
    let t := (Turn.begin s).receiveAll
    have h₁ : t.session.config = s.config :=
      congrArg Backdrop.config (s.opened.receiveFrames_backdrop s.link.toScene.waiting)
    have h₂ : (t.dispatch b).session.config = s.config :=
      (congrArg Backdrop.config (t.dispatch_backdrop b)).trans h₁
    have h₃ : ((t.dispatch b).expire b).session.config = s.config :=
      (congrArg Backdrop.config ((t.dispatch b).expire_backdrop b)).trans h₂
    have hw := t.dispatch_complains b
    have he := (t.dispatch b).expire_complains b
    have hu := ((t.dispatch b).expire b).update_complains b dt
    rw [h₁] at hw
    rw [h₂] at he
    rw [h₃] at hu
    have hc := (((hr.trans hw).trans he).trans hu).trans (s.worked b dt).flush_complains
    simp only [List.nil_append, List.append_nil, ← List.filterMap_append] at hc
    exact hc

theorem tick_complains (dt : Binary64) :
    Complains s.stage.journal (s.tick b dt).2.stage.journal
      ((s.calls b dt).filterMap (Call.event? s.config.sceneId)) := by
  by_cases hn : s.isFailed = true
  · rw [tick_failed hn, calls, hn]
    exact .nil
  · have hs := s.step_complains b dt hn
    rw [tick, Option.not_isSome_iff_eq_none.mp hn]
    cases hk : s.step b dt with
    | mk r u =>
      rw [hk] at hs
      cases r with
      | ok report => exact hs
      | error f =>
        have hc := hs.trans (.aside (e := .speak .error Target.session u.config.sceneId
          (.quoted "session") s!"stopping: {f.message}") rfl)
        rw [List.append_nil] at hc
        exact hc

def callsIn : Move κ σ → List (Call κ)
  | .tick dt => s.calls b dt
  | _ => []

def allCalls (b : Behaviour κ σ) (s : Session κ σ) : List (Move κ σ) → List (Call κ)
  | [] => []
  | m :: ms => s.callsIn b m ++ (s.apply b m).allCalls b ms

theorem callsIn_happening (m : Move κ σ) :
    (s.callsIn b m).map Call.happening = (s.deeds b m).filter Happening.isCall := by
  cases m with
  | tick dt => exact calls_happening b dt s
  | _ => rfl

theorem allCalls_happening (ms : List (Move κ σ)) :
    (s.allCalls b ms).map Call.happening = (s.history b ms).filter Happening.isCall := by
  induction ms generalizing s with
  | nil => rfl
  | cons m ms ih =>
    rw [allCalls, history, List.map_append, List.filter_append, callsIn_happening, ih]

theorem apply_complains (m : Move κ σ) :
    Complains s.stage.journal (s.apply b m).stage.journal
      ((s.callsIn b m).filterMap (Call.event? s.config.sceneId)) := by
  cases m with
  | tick dt => exact s.tick_complains b dt
  | pause =>
    rw [apply, pause]
    split
    · exact .nil
    · exact .aside rfl
  | resume =>
    rw [apply, resume]
    split
    · exact .aside rfl
    · exact .nil
  | send frame =>
    rw [apply]
    split <;> exact .nil
  | _ => exact .nil

theorem after_complains (ms : List (Move κ σ)) :
    Complains s.stage.journal (s.after b ms).stage.journal
      ((s.allCalls b ms).filterMap (Call.event? s.config.sceneId)) := by
  induction ms generalizing s with
  | nil => exact .nil
  | cons m ms ih =>
    have hr := ih (s.apply b m)
    rw [apply_config] at hr
    rw [allCalls, List.filterMap_append]
    exact (s.apply_complains b m).trans hr

end Session

namespace FieldValue

theorem bare_plain_sublist (s : String) : (plain s).bare.toList.Sublist s.toList := by
  rw [bare, String.toList_ofList]
  exact unquoted_sublist s.toList

theorem bare_plain_eq_iff {s : String} : (plain s).bare = s ↔ hasOuterQuote s = false := by
  rw [← String.toList_inj, bare, String.toList_ofList, unquoted_eq_self_iff, hasOuterQuote,
    Bool.or_eq_false_iff, decide_eq_false_iff_not, decide_eq_false_iff_not]

end FieldValue

namespace Call

variable (c : Call κ) (time scene : String)

def texts : List String := [scene, c.part, c.complaint?.getD ""]

/-- The line in the first thread for a call that went wrong, with its texts shown in some way. -/
def line (f : String → String) : String :=
  time ++ " ERROR #001 " ++ f scene ++ "::" ++ f c.part ++ ": " ++ f (c.complaint?.getD "")

theorem line_of_event {e : Event} {style : Style} (hs : style.ansi = false)
    (he : c.event? scene = some e) :
    e.line style ⟨time, 1⟩ = c.line time scene fun s => (FieldValue.plain s).bare := by
  obtain ⟨text, ht, rfl⟩ := Option.map_eq_some_iff.mp he
  have hn : threeDigits 1 = "001" := by decide +kernel
  have hl : Level.error.column = "ERROR" := by decide +kernel
  have hp (code text : String) : style.paint code text = text := by
    rw [Style.paint, hs, if_neg Bool.false_ne_true]
  rw [line, ht]
  simp only [Event.line, Event.speak, Style.dim, hp, hn, hl]
  simp [Event.speaker?, FieldValue.bare, String.append_assoc]

theorem line_eq_iff {f : String → String} (hf : ∀ s, (f s).toList.Sublist s.toList) :
    c.line time scene f = c.line time scene id ↔ ∀ s ∈ c.texts scene, f s = s := by
  have hl (s : String) : (f s).length ≤ s.length := (hf s).length_le
  have he {s : String} (h : (f s).length = s.length) : f s = s :=
    String.toList_inj.mp ((hf s).eq_of_length h)
  simp only [texts, List.forall_mem_cons, List.not_mem_nil, false_implies, implies_true, and_true]
  constructor
  · intro h
    have h' := congrArg String.length h
    simp only [line, String.length_append, id] at h'
    have h₁ := hl scene
    have h₂ := hl c.part
    have h₃ := hl (c.complaint?.getD "")
    exact ⟨he (by omega), he (by omega), he (by omega)⟩
  · rintro ⟨h₁, h₂, h₃⟩
    simp only [line, h₁, h₂, h₃, id]

theorem line_unbroken {f : String → String} (hf : ∀ s, (f s).toList.Sublist s.toList)
    (ht : '\n' ∉ time.toList) (hc : ∀ s ∈ c.texts scene, '\n' ∉ s.toList) :
    '\n' ∉ (c.line time scene f).toList := by
  have hn {s : String} (h : s ∈ c.texts scene) : '\n' ∉ (f s).toList :=
    fun hm => hc s h ((hf s).subset hm)
  have h₁ : '\n' ∉ (f scene).toList := hn (.head _)
  have h₂ : '\n' ∉ (f c.part).toList := hn (.tail _ (.head _))
  have h₃ : '\n' ∉ (f (c.complaint?.getD "")).toList := hn (.tail _ (.tail _ (.head _)))
  simp [line, ht, h₁, h₂, h₃]

def heard (rules : Rules) (scene : String) (cs : List (Call κ)) : List (Call κ) :=
  cs.filter fun c => (c.event? scene).any rules.allow

theorem lines_of_events (l : Logger) {style : Style} (hs : style.ansi = false)
    (cs : List (Call κ)) :
    l.lines style ⟨time, 1⟩ (cs.filterMap (event? scene)) =
      (heard l.rules scene cs).map
        (line · time scene fun s => (FieldValue.plain s).bare) := by
  induction cs with
  | nil => rfl
  | cons c cs ih =>
    rw [Logger.lines, heard] at ih ⊢
    cases he : c.event? scene with
    | none =>
      rw [List.filterMap_cons_none he, List.filter_cons_of_neg (by simp [he]), ih]
    | some e =>
      rw [List.filterMap_cons_some he, List.filter_cons, List.filter_cons, he, Option.any_some]
      split
      · rw [List.map_cons, List.map_cons, ih, c.line_of_event time scene hs he]
      · exact ih

end Call

namespace Session

/-- The calls of a run that fail are told of in the log, and no others, each once and in their
order. What gets into the log of them are lines with the scene, the part of the scene and the
reason, all without the double quotes at their ends; so a line has these texts as they are just if
none of them begins or ends with a double quote. -/
theorem failures_are_logged (b : Behaviour κ σ) (config : Config) (types : Registry) (memory : σ)
    (moves : List (Move κ σ)) (l : Logger) (style : Style) (hs : style.ansi = false)
    (time : String) :
    let s := start config ({ types } : World κ) memory
    let scene := config.sceneId
    let calls := s.allCalls b moves
    let told := (s.after b moves).stage.journal.filter Event.isComplaint
    let bare (text : String) := (FieldValue.plain text).bare
    calls.map Call.happening = (s.history b moves).filter Happening.isCall ∧
      told = calls.filterMap (Call.event? scene) ∧
      (∀ c : Call κ, (c.event? scene).isSome = c.failed) ∧
      l.lines style ⟨time, 1⟩ told =
        (Call.heard l.rules scene calls).map (Call.line · time scene bare) ∧
      ∀ c ∈ Call.heard l.rules scene calls,
        (c.line time scene bare = c.line time scene id ↔
          ∀ text ∈ c.texts scene, hasOuterQuote text = false) ∧
        ('\n' ∉ time.toList → (∀ text ∈ c.texts scene, '\n' ∉ text.toList) →
          '\n' ∉ (c.line time scene bare).toList) := by
  intro s scene calls told bare
  have ht : told = calls.filterMap (Call.event? scene) := by
    obtain ⟨es, he, hf⟩ := s.after_complains b moves
    exact (congrArg (List.filter Event.isComplaint) he).trans hf
  refine ⟨s.allCalls_happening b moves, ht, Call.event?_isSome scene, ?_, fun c _ => ⟨?_, ?_⟩⟩
  · rw [ht]
    exact Call.lines_of_events time scene l hs calls
  · rw [c.line_eq_iff time scene FieldValue.bare_plain_sublist]
    simp only [FieldValue.bare_plain_eq_iff]
  · exact c.line_unbroken time scene FieldValue.bare_plain_sublist

theorem failures_are_logged_broken :
    let b : Behaviour Unit Unit := fun _ _ _ => .finish () () (.panicked (.text "no \"a\" here"))
    let config : Config := {}
    let moves : List (Move Unit Unit) := [.act (.subscribe ⟨"e", none, ()⟩),
      .act (.ask "q" .null ()), .tick ⟨0⟩, .act (.register ⟨"a", 0, ()⟩),
      .send "\x7b\"type\":\"event\",\"eventName\":\"e\"\x7d",
      .send "\x7b\"type\":\"queryResponse\",\"requestId\":\"q1\"\x7d", .tick ⟨0⟩]
    let l := Logger.ofConfig config.log {}
    let style : Style := {}
    let lines := l.lines style ⟨"now", 1⟩
      (((start config ({ types := ∅ } : World Unit) ()).after b moves).stage.journal.filter
        Event.isComplaint)
    let calls := (start config ({ types := ∅ } : World Unit) ()).allCalls b moves
    style.ansi = false ∧
      lines = ["now ERROR #001 scene::on:e: event handler failed: panicked: no \"a\" here",
        "now ERROR #001 scene::query:q1: query callback panicked: no \"a\" here",
        "now ERROR #001 scene::a: update failed: panicked: no \"a\" here"] ∧
      lines = (Call.heard l.rules config.sceneId calls).map
        (Call.line · "now" config.sceneId id) ∧
      ∀ c ∈ Call.heard l.rules config.sceneId calls,
        '\n' ∉ (c.line "now" config.sceneId id).toList := by
  intro b config moves l style lines calls
  obtain ⟨_, _, _, hl, hc⟩ := failures_are_logged b config ∅ () moves l style rfl "now"
  have hq : ∀ c ∈ Call.heard l.rules config.sceneId calls,
      ∀ text ∈ c.texts config.sceneId, hasOuterQuote text = false := by decide +kernel
  have hn : ∀ c ∈ Call.heard l.rules config.sceneId calls,
      ∀ text ∈ c.texts config.sceneId, '\n' ∉ text.toList := by decide +kernel
  have hv := List.map_congr_left fun c hm => (hc c hm).1.mpr (hq c hm)
  refine ⟨rfl, by decide +kernel, hl.trans hv, fun c hm => ?_⟩
  rw [← (hc c hm).1.mpr (hq c hm)]
  exact (hc c hm).2 (by decide) (hn c hm)

/-- The reason ends with a double quote, and the line does not. -/
theorem last_quote_is_lost :
    let b : Behaviour Unit Unit :=
      fun _ _ _ => .finish () () (.failed "no file \"scene.json\"")
    let s := start {} ({ types := ∅ } : World Unit) ()
    let moves : List (Move Unit Unit) := [.act (.register ⟨"loader", 0, ()⟩), .tick ⟨0⟩]
    let l := Logger.ofConfig ({ logLevel := "error" } : Config).log {}
    l.lines {} ⟨"now", 1⟩ (s.after b moves).stage.journal =
        ["now ERROR #001 scene::loader: update failed: no file \"scene.json"] ∧
      (s.allCalls b moves).map (Call.line · "now" "scene" id) =
        ["now ERROR #001 scene::loader: update failed: no file \"scene.json\""] := by
  decide +kernel

end Session

end Diorama
