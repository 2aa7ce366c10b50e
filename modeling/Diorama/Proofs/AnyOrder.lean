import Diorama.Proofs.Calls
import Diorama.Proofs.SideBySide
import Diorama.Proofs.Unordered

namespace Diorama

variable {κ σ : Type}

/-- The orders that a run takes: for each thing that code does, by how many it has done before, and
for the questions that wait in each tick. -/
structure Choices where
  act : Nat → List Descent → Listing
  scan : Nat → Listing

def Choices.table : Choices := ⟨fun _ _ => .table, fun _ => .table⟩

/-- What code keeps in memory, and what it has done to the world so far. -/
structure Backstage (κ σ : Type) where
  memory : σ
  past : History κ := []

def Stage.actBy (f : Choices) (s : Stage κ (Backstage κ σ)) (a : Action κ) :
    a.Reply × Stage κ (Backstage κ σ) :=
  let (r, world) := s.world.performBy (f.act s.memory.past.length) a
  (r, { s with world, memory := { s.memory with past := s.memory.past ++ [.act a r] } })

namespace Program

def runBy (f : Choices) : Program κ σ → Stage κ (Backstage κ σ) → Return κ (Backstage κ σ)
  | finish self memory ending, s => ⟨self, ending, { s with memory := { s.memory with memory } }⟩
  | act a next, s =>
    let (r, s) := s.actBy f a
    (next r).runBy f s
  | look next, s => (next s.world).runBy f s

def baring (next : Program κ σ) : List (Entity × String) → Program κ σ
  | [] => next
  | x :: xs => .act (.detach x.1 x.2) fun _ => baring next xs

/-- Code that makes its own choice of orders, in a world that leaves it none. -/
def chosen (f : Choices) : Program κ σ → History κ → Program κ (Backstage κ σ)
  | finish self memory ending, past => .finish self ⟨memory, past⟩ ending
  | act a next, past => .look fun w =>
    let order := f.act past.length
    let r := (w.performBy order a).1
    baring (.act a fun _ => (next r).chosen f (past ++ [.act a r])) (w.leftovers (order []) a)
  | look next, past => .look fun w => (next w).chosen f past

theorem run_baring (p : Program κ σ) (xs : List (Entity × String)) (s : Stage κ σ) :
    (p.baring xs).run s = p.run { s with world := s.world.bare xs } := by
  induction xs generalizing s with
  | nil => rfl
  | cons x xs ih => exact ih { s with world := (s.world.perform (.detach x.1 x.2)).2 }

theorem run_chosen (f : Choices) (p : Program κ σ) (past : History κ) (memory : σ)
    (s : Stage κ (Backstage κ σ)) :
    (p.chosen f past).run s = p.runBy f { s with memory := ⟨memory, past⟩ } := by
  induction p generalizing past s with
  | finish self memory ending => rfl
  | look next ih => exact ih s.world past s
  | act a next ih =>
    rw [chosen, run, run_baring, run, runBy]
    dsimp only [Stage.actBy]
    rw [World.performBy_bare]
    exact ih _ _ _

theorem runBy_table (p : Program κ σ) (past : History κ) (s : Stage κ σ) :
    ∃ past', p.runBy .table ⟨s.world, ⟨s.memory, past⟩, s.journal⟩ =
      ⟨(p.run s).self, (p.run s).ending,
        ⟨(p.run s).stage.world, ⟨(p.run s).stage.memory, past'⟩, (p.run s).stage.journal⟩⟩ := by
  induction p generalizing past s with
  | finish self memory ending => exact ⟨past, rfl⟩
  | look next ih => exact ih s.world past s
  | act a next ih =>
    have ha := s.world.performBy_table a
    rw [runBy, Stage.actBy]
    dsimp only [Choices.table]
    rw [ha]
    exact ih _ _ { s with world := (s.world.perform a).2 }

end Program

namespace Behaviour

def chosen (f : Choices) (b : Behaviour κ σ) : Behaviour κ (Backstage κ σ) :=
  fun code o m => (b code o m.memory).chosen f m.past

theorem call_chosen (f : Choices) (b : Behaviour κ σ) (s : Stage κ (Backstage κ σ)) (code : κ)
    (o : Occasion) : s.call (b.chosen f) code o = (b code o s.memory.memory).runBy f s :=
  Program.run_chosen f (b code o s.memory.memory) s.memory.past s.memory.memory s

end Behaviour

/-- Two programs end as the same code, with memories that are the same to code, if all that they
learn is alike. Which of several bad fields they hear of, and what is noted of entities that are
gone, makes no difference to what they do. -/
inductive Program.Steady (same : σ → σ → Prop) : Program κ σ → Program κ σ → Prop
  | finish (self : κ) {memory memory' : σ} (hm : same memory memory') (ending ending' : Ending) :
      Steady same (.finish self memory ending) (.finish self memory' ending')
  | act (a : Action κ) {next next' : a.Reply → Program κ σ}
      (h : ∀ r r', a.Alike r r' → Steady same (next r) (next' r')) :
      Steady same (.act a next) (.act a next')
  | look {next next' : World κ → Program κ σ}
      (h : ∀ w w', w.Alike w' → Steady same (next w) (next' w')) :
      Steady same (.look next) (.look next')

structure Behaviour.Steady (same : σ → σ → Prop) (b : Behaviour κ σ) : Prop where
  refl (memory : σ) : same memory memory
  steady (code : κ) (o : Occasion) {memory memory' : σ} (hm : same memory memory') :
    (b code o memory).Steady same (b code o memory')

def Behaviour.insisting (e : Entity) (c : String) (v : Json) : Behaviour Unit Unit :=
  fun _ _ _ => .act (.attach e c v) fun
    | .ok () => .finish () () .returned
    | .error _ => .act .create fun _ => .finish () () .returned

theorem Behaviour.insisting_steady (e : Entity) (c : String) (v : Json) :
    (insisting e c v).Steady Eq where
  refl _ := rfl
  steady _ _ _ _ _ := .act _ fun r r' h => by
    have made : (Program.act .create fun _ => .finish () () .returned : Program Unit Unit).Steady Eq
        (.act .create fun _ => .finish () () .returned) := .act _ fun _ _ _ => .finish () rfl _ _
    cases h with
    | same =>
      cases r with
      | ok _ => exact .finish () rfl _ _
      | error _ => exact made
    | attach => exact made

/-- Code did the same, and learned the same of it but for the wording. -/
inductive Happening.Alike : Happening κ → Happening κ → Prop
  | same (x : Happening κ) : Alike x x
  | act {a : Action κ} {reply reply' : a.Reply} (h : a.Alike reply reply') :
      Alike (.act a reply) (.act a reply')

def Happening.fault? : Happening κ → Option TypeFault
  | .act (.attach ..) (.error (.invalidValue _ x)) => some x
  | _ => none

def History.calls (h : History κ) : History κ := h.filter Happening.isCall

namespace Likeness

def ofOrders (same : σ → σ → Prop) :
    Likeness κ (Backstage κ σ) (Backstage κ σ) (Happening κ) where
  changes := Changes.Alike
  memory m m' := same m.memory m'.memory ∧ List.Forall₂ Happening.Alike m.past m'.past
  view := Option.guard Happening.isCall
  told := .refl {}
  sync h := Replica.sync_alike h
  flush _ _ _ := rfl

def ofOrder (same : σ → σ → Prop) : Likeness κ σ (Backstage κ σ) (Happening κ) where
  changes := Changes.Alike
  memory m m' := same m m'.memory
  view := Option.guard Happening.isCall
  told := .refl {}
  sync h := Replica.sync_alike h
  flush _ _ _ := rfl

theorem seen_ofOrders (same : σ → σ → Prop) (h : History κ) : (ofOrders same).seen h = h.calls :=
  congrFun (List.filterMap_eq_filter ..) h

theorem seen_ofOrder (same : σ → σ → Prop) (h : History κ) : (ofOrder same).seen h = h.calls :=
  congrFun (List.filterMap_eq_filter ..) h

end Likeness

variable {same : σ → σ → Prop}

theorem Stage.actBy_alike (f g : Choices) {s s' : Stage κ (Backstage κ σ)}
    (hs : (Likeness.ofOrders same).OfStage s s') (a : Action κ) :
    a.Alike (s.actBy f a).1 (s'.actBy g a).1 ∧
      (Likeness.ofOrders same).OfStage (s.actBy f a).2 (s'.actBy g a).2 := by
  obtain ⟨changes, memory, journal, hc, hm, he⟩ := hs
  have hw : s.world.Alike s'.world := ⟨changes, hc, congrArg Stage.world he⟩
  obtain rfl : s'.memory = memory := congrArg Stage.memory he
  obtain ⟨hr, c, hc, hw⟩ :=
    hw.performBy (f.act s.memory.past.length) (g.act s'.memory.past.length) a
  have hn : List.Forall₂ Happening.Alike (s.actBy f a).2.memory.past (s'.actBy g a).2.memory.past :=
    List.rel_append hm.2 (.cons (.act hr) .nil)
  exact ⟨hr, c, (s'.actBy g a).2.memory, s'.journal, hc, ⟨hm.1, hn⟩,
    congrArg (Stage.mk · _ s'.journal) hw⟩

theorem Stage.perform_alike (f : Choices) {s : Stage κ σ} {s' : Stage κ (Backstage κ σ)}
    (hs : (Likeness.ofOrder same).OfStage s s') (a : Action κ) :
    (Likeness.ofOrder same).OfStage { s with world := (s.world.perform a).2 } (s'.actBy f a).2 := by
  obtain ⟨changes, memory, journal, hc, hm, he⟩ := hs
  have hw : s.world.Alike s'.world := ⟨changes, hc, congrArg Stage.world he⟩
  obtain rfl : s'.memory = memory := congrArg Stage.memory he
  obtain ⟨_, c, hc, hw⟩ := hw.performBy (fun _ => .table) (f.act s'.memory.past.length) a
  rw [World.performBy_table] at hc hw
  exact ⟨c, (s'.actBy f a).2.memory, s'.journal, hc, hm, congrArg (Stage.mk · _ s'.journal) hw⟩

theorem Program.Steady.runBy {p p' : Program κ σ} (hp : p.Steady same p') (f g : Choices)
    {s s' : Stage κ (Backstage κ σ)} (hs : (Likeness.ofOrders same).OfStage s s') :
    (p'.runBy g s').self = (p.runBy f s).self ∧
      (Likeness.ofOrders same).OfStage (p.runBy f s).stage (p'.runBy g s').stage := by
  induction hp generalizing s s' with
  | finish self hm ending ending' =>
    obtain ⟨changes, memory, journal, hc, ⟨_, hp⟩, rfl⟩ := hs
    exact ⟨rfl, changes, ⟨_, memory.past⟩, journal, hc, ⟨hm, hp⟩, rfl⟩
  | act a h ih =>
    obtain ⟨hr, hs⟩ := Stage.actBy_alike f g hs a
    exact ih _ _ hr hs
  | look h ih =>
    have hl := hs
    obtain ⟨changes, memory, journal, hc, hm, rfl⟩ := hl
    exact ih _ _ ⟨changes, hc, rfl⟩ hs

namespace Behaviour.Steady

variable {b : Behaviour κ σ} (hb : b.Steady same) (f g : Choices)
include hb

theorem ofOrders : (Likeness.ofOrders same).OfCode (b.chosen f) (b.chosen g) where
  seen _ _ _ := by
    rw [Likeness.seen_ofOrders, Likeness.seen_ofOrders]
    exact (Stage.deeds_isCall ..).trans (Stage.deeds_isCall ..).symm
  self {s s'} hs code o := by
    rw [call_chosen, call_chosen]
    exact ((hb.steady code o hs.memory.1).runBy f g hs).1
  stage {s s'} hs code o := by
    rw [call_chosen, call_chosen]
    exact ((hb.steady code o hs.memory.1).runBy f g hs).2

theorem call_ofOrder {s : Stage κ σ} {s' : Stage κ (Backstage κ σ)}
    (hs : (Likeness.ofOrder same).OfStage s s') (code : κ) (o : Occasion) :
    (s'.call (b.chosen f) code o).self = (s.call b code o).self ∧
      (Likeness.ofOrder same).OfStage (s.call b code o).stage
        (s'.call (b.chosen f) code o).stage := by
  have hm : same s.memory s'.memory.memory := hs.memory
  have hs : (Likeness.ofOrders same).OfStage
      ⟨s.world, ⟨s.memory, s'.memory.past⟩, s.journal⟩ s' := by
    obtain ⟨changes, memory, journal, hc, _, rfl⟩ := hs
    exact ⟨changes, memory, journal, hc, ⟨hm, List.forall₂_same.mpr fun x _ => .same x⟩, rfl⟩
  obtain ⟨past, hr⟩ := (b code o s.memory).runBy_table s'.memory.past s
  obtain ⟨hl, changes, memory, journal, hc, hm, he⟩ := (hb.steady code o hm).runBy .table f hs
  rw [hr] at hl hc hm he
  rw [call_chosen]
  exact ⟨hl, changes, memory, journal, hc, hm.1, he⟩

theorem ofOrder : (Likeness.ofOrder same).OfCode b (b.chosen f) where
  seen _ _ _ := by
    rw [Likeness.seen_ofOrder, Likeness.seen_ofOrder]
    exact (Stage.deeds_isCall ..).trans (Stage.deeds_isCall ..).symm
  self hs code o := (hb.call_ofOrder f hs code o).1
  stage hs code o := (hb.call_ofOrder f hs code o).2

end Behaviour.Steady

def Turn.expireBy (f : Choices) (b : Behaviour κ σ) (t : Turn κ σ) : Turn κ σ :=
  let (gone, queries) := t.world.queries.expireBy (f.scan t.world.tick) t.world.tick
    t.session.config.queryTimeoutTicks
  gone.foldl (timeOut b) { t with session := t.session.setWorld { t.world with queries } }

namespace Session

def stepBy (f : Choices) (b : Behaviour κ σ) (dt : Binary64) (s : Session κ σ) :
    Except Failure Report × Session κ σ :=
  let t := (Turn.begin s).receiveAll
  if t.session.link.toScene.isDry then (.error (.link .hostGone), t.session)
  else (((t.dispatch b).expireBy f b).update b dt).flush

def tickBy (f : Choices) (b : Behaviour κ σ) (dt : Binary64) (s : Session κ σ) :
    Except Failure Report × Session κ σ :=
  match s.failure with
  | some f => (.error (.link (.stopped f.message)), s)
  | none =>
    match s.stepBy f b dt with
    | (.ok r, s) => (.ok r, { s with stats := s.stats.count r })
    | (.error f, s) =>
      (.error f, { s.remark .error s!"stopping: {f.message}" with failure := some f })

theorem tickBy_eq (f : Choices) (b : Behaviour κ σ) (dt : Binary64) (s : Session κ σ) :
    s.tickBy f b dt = s.tick b dt := by
  have he (t : Turn κ σ) : t.expireBy f b = t.expire b := by
    rw [Turn.expireBy, Turn.expire, Queries.expireBy_eq]
  have hs : s.stepBy f b dt = s.step b dt := by rw [stepBy, step, he]
  rcases hf : s.failure with _ | x
  · rcases hr : s.step b dt with ⟨r | x, u⟩ <;> simp only [tickBy, tick, hf, hs, hr]
  · simp only [tickBy, tick, hf]

end Session

def Move.noted (past : History κ) : Move κ σ → Move κ (Backstage κ σ)
  | act a => .act a
  | remember memory => .remember ⟨memory, past⟩
  | pause => .pause
  | resume => .resume
  | tick dt => .tick dt
  | send frame => .send frame
  | receive => .receive
  | mute => .mute
  | ignore => .ignore

namespace Session

def past (s : Session κ (Backstage κ σ)) : History κ := s.stage.memory.past

def applyBy (f : Choices) (b : Behaviour κ σ) (s : Session κ (Backstage κ σ)) :
    Move κ σ → Session κ (Backstage κ σ)
  | .act a => { s with stage := (s.stage.actBy f a).2 }
  | .tick dt => (s.tickBy f (b.chosen f) dt).2
  | m => s.apply (b.chosen f) (m.noted s.past)

def afterBy (f : Choices) (b : Behaviour κ σ) (s : Session κ (Backstage κ σ))
    (ms : List (Move κ σ)) : Session κ (Backstage κ σ) := ms.foldl (applyBy f b) s

def callsBy (f : Choices) (b : Behaviour κ σ) (s : Session κ (Backstage κ σ)) :
    List (Move κ σ) → History κ
  | [] => []
  | m :: ms =>
    (s.deeds (b.chosen f) (m.noted s.past)).calls ++ (s.applyBy f b m).callsBy f b ms

/-- The expiry of questions takes the same ones out in every order. -/
theorem applyBy_eq (f : Choices) (b : Behaviour κ σ) (s : Session κ (Backstage κ σ)) {m : Move κ σ}
    (hm : ∀ a, m ≠ .act a) : s.applyBy f b m = s.apply (b.chosen f) (m.noted s.past) := by
  cases m with
  | act a => exact absurd rfl (hm a)
  | tick dt => exact congrArg Prod.snd (tickBy_eq f (b.chosen f) dt s)
  | _ => rfl

end Session

namespace Behaviour.Steady

variable {b : Behaviour κ σ} (hb : b.Steady same) (f g : Choices)
include hb

theorem ofMoves {past past' : History κ} (hp : List.Forall₂ Happening.Alike past past')
    {m : Move κ σ} (hm : ∀ a, m ≠ .act a) :
    (Likeness.ofOrders same).OfMove (m.noted past) (m.noted past') := by
  cases m with
  | act a => exact absurd rfl (hm a)
  | remember memory => exact .remember ⟨hb.refl memory, hp⟩
  | _ => constructor

theorem ofMove (past : History κ) {m : Move κ σ} (hm : ∀ a, m ≠ .act a) :
    (Likeness.ofOrder same).OfMove m (m.noted past) := by
  cases m with
  | act a => exact absurd rfl (hm a)
  | remember memory => exact .remember (hb.refl memory)
  | _ => constructor

theorem applyBy {s s' : Session κ (Backstage κ σ)} (hs : (Likeness.ofOrders same).OfSession s s')
    (m : Move κ σ) :
    (Likeness.ofOrders same).OfSession (s.applyBy f b m) (s'.applyBy g b m) ∧
      (s.deeds (b.chosen f) (m.noted s.past)).calls =
        (s'.deeds (b.chosen g) (m.noted s'.past)).calls := by
  by_cases hm : ∃ a, m = .act a
  · obtain ⟨a, rfl⟩ := hm
    obtain ⟨stage, m, n, hs, rfl⟩ := hs
    exact ⟨⟨_, m, n, (Stage.actBy_alike f g hs a).2, rfl⟩, rfl⟩
  · have hm : ∀ a, m ≠ .act a := not_exists.mp hm
    have hp : List.Forall₂ Happening.Alike s.past s'.past := hs.stage.memory.2
    rw [Session.applyBy_eq f b s hm, Session.applyBy_eq g b s' hm, ← Likeness.seen_ofOrders,
      ← Likeness.seen_ofOrders]
    exact (hb.ofOrders f g).apply hs (hb.ofMoves hp hm)

theorem apply {s : Session κ σ} {s' : Session κ (Backstage κ σ)}
    (hs : (Likeness.ofOrder same).OfSession s s') (m : Move κ σ) :
    (Likeness.ofOrder same).OfSession (s.apply b m) (s'.applyBy f b m) ∧
      (s.deeds b m).calls = (s'.deeds (b.chosen f) (m.noted s'.past)).calls := by
  by_cases hm : ∃ a, m = .act a
  · obtain ⟨a, rfl⟩ := hm
    obtain ⟨stage, m, n, hs, rfl⟩ := hs
    exact ⟨⟨_, m, n, Stage.perform_alike f hs a, rfl⟩, rfl⟩
  · have hm : ∀ a, m ≠ .act a := not_exists.mp hm
    rw [Session.applyBy_eq f b s' hm, ← Likeness.seen_ofOrder, ← Likeness.seen_ofOrder]
    exact (hb.ofOrder f).apply hs (hb.ofMove _ hm)

theorem afterBy {s s' : Session κ (Backstage κ σ)} (hs : (Likeness.ofOrders same).OfSession s s')
    (ms : List (Move κ σ)) :
    (Likeness.ofOrders same).OfSession (s.afterBy f b ms) (s'.afterBy g b ms) ∧
      s.callsBy f b ms = s'.callsBy g b ms := by
  induction ms generalizing s s' with
  | nil => exact ⟨hs, rfl⟩
  | cons m ms ih =>
    obtain ⟨hu, hc⟩ := hb.applyBy f g hs m
    exact ⟨(ih hu).1, congrArg₂ _ hc (ih hu).2⟩

theorem after {s : Session κ σ} {s' : Session κ (Backstage κ σ)}
    (hs : (Likeness.ofOrder same).OfSession s s') (ms : List (Move κ σ)) :
    (Likeness.ofOrder same).OfSession (s.after b ms) (s'.afterBy f b ms) ∧
      (s.history b ms).calls = s'.callsBy f b ms := by
  induction ms generalizing s s' with
  | nil => exact ⟨hs, rfl⟩
  | cons m ms ih =>
    obtain ⟨hu, hc⟩ := hb.apply f hs m
    refine ⟨(ih hu).1, (List.filter_append ..).trans ?_⟩
    exact congrArg₂ _ hc (ih hu).2

end Behaviour.Steady

namespace Session

/-- The order in which maps are gone through never shows. A run may take an order of its own at each
use of a map: where the components of an entity that is destroyed are listed, where the declared
fields of a value are checked, and where the questions are looked through for those out of time. In
two such runs code does the same with the same success, or fails at one or another of several bad
fields; the same code is called in the same order with the same arguments, and the host is sent the
same frames. Nor is it otherwise in the run that is always made. -/
theorem orders_never_show (same : σ → σ → Prop) (b : Behaviour κ σ) (hb : b.Steady same)
    (config : Config) (types : Registry) (memory : σ) (moves : List (Move κ σ)) (f g : Choices) :
    let s := start config ({ types } : World κ) memory
    let s' := start config ({ types } : World κ) (⟨memory, []⟩ : Backstage κ σ)
    let u := s'.afterBy f b moves
    let v := s'.afterBy g b moves
    List.Forall₂ Happening.Alike u.past v.past ∧
      s'.callsBy f b moves = s'.callsBy g b moves ∧ u.link = v.link ∧
        (s.history b moves).calls = s'.callsBy f b moves ∧ (s.after b moves).link = u.link := by
  intro s s' u v
  have hs : (Likeness.ofOrders same).OfSession s' s' :=
    ⟨_, _, _, ⟨_, ⟨memory, []⟩, _, .refl {}, ⟨hb.refl memory, .nil⟩, rfl⟩, rfl⟩
  have hs' : (Likeness.ofOrder same).OfSession s s' :=
    ⟨_, _, _, ⟨_, ⟨memory, []⟩, _, .refl {}, hb.refl memory, rfl⟩, rfl⟩
  obtain ⟨hu, hc⟩ := hb.afterBy f g hs moves
  obtain ⟨ho, hh⟩ := hb.after f hs' moves
  exact ⟨hu.stage.memory.2, hc, hu.link.symm, hh, ho.link.symm⟩

/-- An entity with two components is destroyed, and two questions run out of time, the code of which
attaches a value with two bad fields. If all maps are gone through in reverse, the components are
noted the other way round and code hears of the other field, but the host is sent the same three
frames. -/
theorem orders_never_show_reversed :
    let types : Registry := [⟨"T", [("a", .number), ("b", .string)], none⟩, ⟨"A", [], none⟩,
      ⟨"B", [], none⟩].foldl Registry.declare ∅
    let s := start { queryTimeoutTicks := 1 } ({ types } : World Unit)
      (⟨(), []⟩ : Backstage Unit Unit)
    let b := Behaviour.insisting ⟨2⟩ "T" (.obj [("a", .str "x"), ("b", .null)])
    let f := Choices.table
    let g : Choices := ⟨fun _ _ => .reversed, fun _ => .reversed⟩
    let ms : List (Move Unit Unit) := [.act .create, .act .create, .act (.attach ⟨1⟩ "A" .null),
      .act (.attach ⟨1⟩ "B" .null), .tick ⟨0⟩, .act (.destroy ⟨1⟩)]
    let ns : List (Move Unit Unit) := ms ++ [.act (.ask "q" .null ()), .act (.ask "r" .null ()),
      .tick ⟨0⟩, .tick ⟨0⟩]
    b.Steady Eq ∧
      (s.afterBy f b ms).world.changes.touched = [(⟨1⟩, ["A", "B"])] ∧
      (s.afterBy g b ms).world.changes.touched = [(⟨1⟩, ["B", "A"])] ∧
      (s.afterBy f b ns).past.filterMap Happening.fault? =
        [.field "T" "a" ⟨[], .notNumber⟩, .field "T" "a" ⟨[], .notNumber⟩] ∧
      (s.afterBy g b ns).past.filterMap Happening.fault? =
        [.field "T" "b" ⟨[], .notString⟩, .field "T" "b" ⟨[], .notString⟩] ∧
      s.callsBy f b ns = s.callsBy g b ns ∧
      (s.callsBy f b ns).filterMap Happening.answered? = [.ofNat 1, .ofNat 2] ∧
      (s.afterBy f b ns).link = (s.afterBy g b ns).link ∧
      (s.afterBy f b ns).link.toHost.frames.length = 3 := by
  intro types s b f g ms ns
  have hb : b.Steady Eq := Behaviour.insisting_steady ..
  obtain ⟨_, hc, hl, _⟩ := orders_never_show Eq b hb { queryTimeoutTicks := 1 } types () ns f g
  exact ⟨hb, by decide +kernel, by decide +kernel, by decide +kernel, by decide +kernel, hc,
    by decide +kernel, hl, by decide +kernel⟩

end Session

end Diorama
