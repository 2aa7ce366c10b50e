import Diorama.Session.Tick

namespace Diorama

inductive Happening (κ : Type) where
  /-- Code does something to the world, and learns what came of it. -/
  | act (action : Action κ) (reply : action.Reply)
  | begin
  | hear (frame : String)
  /-- The host turns out to be gone, which ends the tick. -/
  | lose
  /-- New subscriptions take effect. -/
  | gather
  | deliver (event : HostEvent)
  | notify (handle : Handle (Subscription κ)) (event : HostEvent)
  | drop (d : Drop)
  | answer (id : RequestId) (code : κ) (outcome : Outcome)
  /-- The queries whose time is up are taken out. -/
  | lapse
  /-- New systems take effect. -/
  | convene
  | update (handle : Handle (System κ))
  /-- The host is told what has changed in the world, if the batch gets through. -/
  | flush (world : World κ) (batch : Batch) (result : Except Failure (Option Flushed))

abbrev History (κ : Type) := List (Happening κ)

variable {κ σ : Type}

namespace Program

def deeds : Program κ σ → World κ → History κ
  | finish .., _ => []
  | act a next, w => .act a (w.perform a).1 :: (next (w.perform a).1).deeds (w.perform a).2
  | look next, w => (next w).deeds w

end Program

def Stage.deeds (s : Stage κ σ) (b : Behaviour κ σ) (code : κ) (o : Occasion) : History κ :=
  (b code o s.memory).deeds s.world

def Schedule.deeds (b : Behaviour κ σ) (dt : Binary64) :
    Members (System κ) → Stage κ σ → History κ
  | [], _ => []
  | (h, s) :: rest, stage =>
    .update h :: stage.deeds b s.code (.update dt)
      ++ deeds b dt rest (stage.call b s.code (.update dt)).stage

def Dispatch.deeds (b : Behaviour κ σ) (e : HostEvent) :
    Members (Subscription κ) → Stage κ σ → History κ
  | [], _ => []
  | (h, s) :: rest, stage =>
    if s.wants e then
      .notify h e :: stage.deeds b s.code (.event e)
        ++ deeds b e rest (stage.call b s.code (.event e)).stage
    else deeds b e rest stage

namespace Turn

/-- What happens while things are dealt with one after another. -/
def along {α : Type} (deal : Turn κ σ → α → Turn κ σ) (deeds : Turn κ σ → α → History κ)
    (t : Turn κ σ) : List α → History κ
  | [] => []
  | a :: as => deeds t a ++ along deal deeds (deal t a) as

def handleDeeds (b : Behaviour κ σ) (t : Turn κ σ) : Arrival → History κ
  | .event e =>
    match e.entity.filter fun x => !t.world.isAlive x with
    | some x => [.drop (.deadEntity e.name x)]
    | none => .deliver e :: Dispatch.deeds b e t.session.subscriptions t.session.stage
  | .response id o =>
    match t.world.queries.resolve id with
    | (some code, queries) =>
      .answer id code o ::
        (t.session.setWorld { t.world with queries }).stage.deeds b code (.outcome o)
    | (none, _) => [.drop (.unmatched id)]

def timeOutDeeds (b : Behaviour κ σ) (t : Turn κ σ) (q : RequestId × κ) : History κ :=
  .answer q.1 q.2 .timedOut :: t.session.stage.deeds b q.2 (.outcome .timedOut)

/-- With the subscriptions settled, before the first message is handled. -/
def gathered (t : Turn κ σ) : Turn κ σ :=
  let (subscriptions, world) := Dispatch.gather t.world t.session.subscriptions
  { t with session := { t.session.setWorld world with subscriptions, inbox := [] } }

def dispatchDeeds (b : Behaviour κ σ) (t : Turn κ σ) : History κ :=
  .gather :: t.gathered.along (handle b) (handleDeeds b) t.session.inbox

/-- With the queries whose time is up taken out, and these queries. -/
def lapsed (t : Turn κ σ) : List (RequestId × κ) × Turn κ σ :=
  let (gone, queries) := t.world.queries.expire t.world.tick t.session.config.queryTimeoutTicks
  (gone, { t with session := t.session.setWorld { t.world with queries } })

def expireDeeds (b : Behaviour κ σ) (t : Turn κ σ) : History κ :=
  .lapse :: t.lapsed.2.along (timeOut b) (timeOutDeeds b) t.lapsed.1

def updateDeeds (b : Behaviour κ σ) (dt : Binary64) (t : Turn κ σ) : History κ :=
  if t.session.paused then []
  else
    let (ms, systems) := t.world.systems.call Schedule.place t.session.systems
    .convene ::
      Schedule.deeds b dt ms { t.session.stage with world := { t.world with systems } }

def batch (t : Turn κ σ) : Batch where
  seq := t.session.outbox.next
  ops := (t.session.replica.sync t.world.changes t.world.store).1
  queries := t.world.queries.outgoing

def telling (t : Turn κ σ) : Happening κ := .flush t.world t.batch (t.flush.1.map (·.flushed))

end Turn

def Behaviour.idle : Behaviour κ σ := fun code _ memory => .finish code memory .returned

/-- What is done to a session from outside. -/
inductive Move (κ σ : Type) where
  /-- Scene code acts between two ticks. -/
  | act (action : Action κ)
  /-- The memory that code shares is changed between two ticks. -/
  | remember (memory : σ)
  | pause
  | resume
  | tick (dt : Binary64)
  | send (frame : String)
  | receive
  /-- The host gives up sending. -/
  | mute
  /-- The host gives up receiving. -/
  | ignore

namespace Session

def stepDeeds (b : Behaviour κ σ) (dt : Binary64) (s : Session κ σ) : History κ :=
  let t := (Turn.begin s).receiveAll
  .begin :: s.link.toScene.waiting.map .hear ++
    if t.session.link.toScene.isDry then [.lose]
    else
      let t₁ := t.dispatch b
      let t₂ := t₁.expire b
      t.dispatchDeeds b ++ t₁.expireDeeds b ++ t₂.updateDeeds b dt ++ [(t₂.update b dt).telling]

def apply (b : Behaviour κ σ) (s : Session κ σ) : Move κ σ → Session κ σ
  | .act a => s.setWorld (s.world.perform a).2
  | .remember memory => { s with stage := { s.stage with memory } }
  | .pause => s.pause
  | .resume => s.resume
  | .tick dt => (s.tick b dt).2
  | .send frame =>
    match s.link.hostSend frame with
    | .ok link => { s with link }
    | .error _ => s
  | .receive => { s with link := s.link.hostReceive.2 }
  | .mute => { s with link := { s.link with toScene := s.link.toScene.dropSender } }
  | .ignore => { s with link := { s.link with toHost := s.link.toHost.dropReceiver } }

def deeds (b : Behaviour κ σ) (s : Session κ σ) : Move κ σ → History κ
  | .act a => [.act a (s.world.perform a).1]
  | .tick dt => if s.isFailed then [] else s.stepDeeds b dt
  | _ => []

def after (b : Behaviour κ σ) (s : Session κ σ) (ms : List (Move κ σ)) : Session κ σ :=
  ms.foldl (apply b) s

def history (b : Behaviour κ σ) (s : Session κ σ) : List (Move κ σ) → History κ
  | [] => []
  | m :: ms => s.deeds b m ++ (s.apply b m).history b ms

end Session

namespace Happening

/-- The world after it, as far as code changes it. -/
def replay (w : World κ) : Happening κ → World κ
  | .act a _ => (w.perform a).2
  | _ => w

def created? : Happening κ → Option Entity
  | .act .create e => some e
  | _ => none

def destroyed? : Happening κ → Option Entity
  | .act (.destroy e) (.ok ()) => some e
  | _ => none

def touched? : Happening κ → Option (Entity × String)
  | .act (.attach e c _) (.ok ()) => some (e, c)
  | .act (.mutate e c _) (.ok ()) => some (e, c)
  | .act (.detach e c) (.ok true) => some (e, c)
  | _ => none

def asked? : Happening κ → Option RequestId
  | .act (.ask ..) id => some id
  | _ => none

/-- The query that was taken back while it was pending. -/
def cancelled? : Happening κ → Option RequestId
  | .act (.cancel id) true => some id
  | _ => none

def answered? : Happening κ → Option RequestId
  | .answer id _ _ => some id
  | _ => none

def response? (id : RequestId) : Happening κ → Option Outcome
  | .hear frame =>
    match HostMessage.parse frame.toList with
    | .ok (.response request payload error) =>
      if request = id then
        some (match error with
          | some message => .failed message
          | none => .resolved payload)
      else none
    | _ => none
  | _ => none

def sent? : Happening κ → Option Batch
  | .flush _ batch (.ok (some _)) => some batch
  | _ => none

def isBegin : Happening κ → Bool
  | .begin => true
  | _ => false

def isFlush : Happening κ → Bool
  | .flush .. => true
  | _ => false

end Happening

theorem filterMap_concat {α β : Type} (f : α → Option β) (as : List α) (a : α) :
    (as ++ [a]).filterMap f = as.filterMap f ++ (f a).toList := by
  rw [List.filterMap_append, List.filterMap_cons]
  cases f a <;> rfl

namespace History

def created (h : History κ) : List Entity := h.filterMap Happening.created?

def destroyed (h : History κ) : List Entity := h.filterMap Happening.destroyed?

def touched (h : History κ) : List (Entity × String) := h.filterMap Happening.touched?

def asked (h : History κ) : List RequestId := h.filterMap Happening.asked?

def cancelled (h : History κ) : List RequestId := h.filterMap Happening.cancelled?

def answered (h : History κ) : List RequestId := h.filterMap Happening.answered?

def sent (h : History κ) : List Batch := h.filterMap Happening.sent?

/-- What has happened since the last happening of a kind. -/
def since (kind : Happening κ → Bool) (h : History κ) : History κ :=
  (h.reverse.takeWhile fun x => !kind x).reverse

/-- What the host first said about a query after it was asked. -/
def response? (id : RequestId) (h : History κ) : Option Outcome :=
  (h.dropWhile fun x => x.asked? ≠ some id).tail.findSome? (Happening.response? id)

theorem since_concat (kind : Happening κ → Bool) (h : History κ) (x : Happening κ) :
    (h ++ [x] : History κ).since kind = if kind x then [] else h.since kind ++ [x] := by
  rw [since, List.reverse_append, List.reverse_singleton, List.singleton_append,
    List.takeWhile_cons]
  by_cases hx : kind x = true
  · rw [if_pos hx, if_neg (by simp [hx])]
    rfl
  · rw [if_neg hx, if_pos (by simp [hx]), List.reverse_cons]
    rfl

theorem mem_since_concat {α : Type} {kind : Happening κ → Bool} {f : Happening κ → Option α}
    {h : History κ} {x : Happening κ} {a : α}
    (ha : a ∈ ((h ++ [x] : History κ).since kind).filterMap f) :
    kind x = false ∧ (a ∈ (h.since kind).filterMap f ∨ f x = some a) := by
  rw [since_concat] at ha
  split at ha
  · cases ha
  · rename_i hx
    rw [filterMap_concat, List.mem_append, Option.mem_toList] at ha
    exact ⟨Bool.not_eq_true _ ▸ hx, ha⟩

theorem since_suffix (kind : Happening κ → Bool) (h : History κ) : h.since kind <:+ h := by
  rw [since, ← List.reverse_prefix, List.reverse_reverse]
  exact List.takeWhile_prefix _

theorem response?_concat (id : RequestId) (h : History κ) (x : Happening κ) :
    (h ++ [x] : History κ).response? id =
      if id ∈ h.asked then (h.response? id).or (x.response? id) else none := by
  induction h with
  | nil =>
    rw [response?, List.nil_append, List.dropWhile_cons]
    split <;> rfl
  | cons y h ih =>
    rw [response?, response?, List.cons_append, List.dropWhile_cons, List.dropWhile_cons, asked,
      List.filterMap_cons]
    rw [response?, response?, asked] at ih
    by_cases hy : y.asked? = some id
    · simp [hy, List.findSome?_append]
    · simp only [ne_eq, hy, not_false_eq_true, decide_true, if_true, ih]
      cases ha : y.asked? with
      | none => rfl
      | some j =>
        have hj : id ≠ j := by
          rintro rfl
          exact hy ha
        simp [hj]

end History

end Diorama
