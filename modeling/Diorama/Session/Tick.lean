import Diorama.Session.Basic

/-!
A tick of a session. The messages of the host are taken in and handled, queries run out of time, the
systems run, and the host is told what has changed. A session ends when the link is gone or a batch
is too long for it; whatever goes wrong in the code of the scene is reported, and the tick goes on.
-/

namespace Diorama

structure Turn (κ σ : Type) where
  session : Session κ σ
  report : Report

namespace Turn

variable {κ σ : Type}

def world (t : Turn κ σ) : World κ := t.session.world

def log (t : Turn κ σ) (e : Event) : Turn κ σ := { t with session := t.session.log e }

def drop (t : Turn κ σ) (target : String) (d : Drop) : Turn κ σ :=
  let t := t.log (d.report target)
  { t with report := { t.report with dropped := t.report.dropped ++ [d] } }

def begin (s : Session κ σ) : Turn κ σ :=
  let tick := s.world.tick + 1
  ⟨s.setWorld { s.world with tick }, { tick }⟩

def receive (t : Turn κ σ) (frame : String) : Turn κ σ :=
  match Arrival.ofFrame t.world frame with
  | .ok a => { t with session := { t.session with inbox := t.session.inbox ++ [a] } }
  | .error d => t.drop Target.inbound d

def receiveAll (t : Turn κ σ) : Turn κ σ :=
  let (frames, toScene) := t.session.link.toScene.takeAll
  let link := { t.session.link with toScene }
  frames.foldl receive { t with session := { t.session with link } }

def deliver (b : Behaviour κ σ) (t : Turn κ σ) (e : HostEvent) : Turn κ σ :=
  let d := Dispatch.deliver b t.session.config.sceneId e t.session.subscriptions t.session.stage
  { session := { t.session with subscriptions := d.members, stage := d.stage }
    report := { t.report with
      events := t.report.events + 1, handlerFailures := t.report.handlerFailures + d.failed } }

def complete (b : Behaviour κ σ) (t : Turn κ σ) (id : RequestId) (code : κ) (o : Outcome) :
    Turn κ σ :=
  let r := t.session.stage.call b code (.outcome o)
  let t := { t with session := { t.session with stage := r.stage } }
  match r.ending with
  | .panicked p =>
    let part := s!"query:{id.text}"
    let t := t.log (.speak .error Target.session t.session.config.sceneId (.plain part)
      s!"query callback panicked: {p.message}")
    { t with report := { t.report with handlerFailures := t.report.handlerFailures + 1 } }
  | _ => t

/-- Handle a message. What it is about may have gone since it was queued. -/
def handle (b : Behaviour κ σ) (t : Turn κ σ) : Arrival → Turn κ σ
  | .event e =>
    match e.entity.filter fun x => !t.world.isAlive x with
    | some x => t.drop Target.session (.deadEntity e.name x)
    | none => t.deliver b e
  | .response id o =>
    match t.world.queries.resolve id with
    | (some code, queries) =>
      let t := { t with session := t.session.setWorld { t.world with queries } }
      let t := t.complete b id code o
      { t with report := { t.report with resolved := t.report.resolved + 1 } }
    | (none, _) => t.drop Target.session (.unmatched id)

def timeOut (b : Behaviour κ σ) (t : Turn κ σ) (q : RequestId × κ) : Turn κ σ :=
  let t := t.log (.say .debug Target.session s!"Query '{q.1.text}' timed out")
  let t := t.complete b q.1 q.2 .timedOut
  { t with report := { t.report with timedOut := t.report.timedOut + 1 } }

def dispatch (b : Behaviour κ σ) (t : Turn κ σ) : Turn κ σ :=
  let (subscriptions, world) := Dispatch.gather t.world t.session.subscriptions
  t.session.inbox.foldl (handle b)
    { t with session := { t.session.setWorld world with subscriptions, inbox := [] } }

def expire (b : Behaviour κ σ) (t : Turn κ σ) : Turn κ σ :=
  let (gone, queries) := t.world.queries.expire t.world.tick t.session.config.queryTimeoutTicks
  gone.foldl (timeOut b) { t with session := t.session.setWorld { t.world with queries } }

def update (b : Behaviour κ σ) (dt : Binary64) (t : Turn κ σ) : Turn κ σ :=
  if t.session.paused then t
  else
    let p := Schedule.run b t.session.config.sceneId dt t.session.systems t.session.stage
    { session := { t.session with systems := p.members, stage := p.stage }
      report := { t.report with systems := p.members.length, failures := p.failures } }

/-- Tell the host what has changed. Even if that fails, the scene takes it as told. -/
def flush (t : Turn κ σ) : Except Failure Report × Session κ σ :=
  let (ops, replica) := t.session.replica.sync t.world.changes t.world.store
  let (asked, queries) := t.world.queries.takeOutgoing t.report.tick
  let s := { t.session.setWorld { t.world with changes := {}, queries } with replica }
  match s.outbox.flush s.link ops asked with
  | .ok (flushed, outbox, link) =>
    let s := { s with outbox, link }
    let s := match flushed with
      | some f => s.log f.report
      | none => s
    (.ok { t.report with flushed }, s)
  | .error f => (.error f, s)

end Turn

namespace Session

variable {κ σ : Type}

def step (b : Behaviour κ σ) (dt : Binary64) (s : Session κ σ) :
    Except Failure Report × Session κ σ :=
  let t := (Turn.begin s).receiveAll
  if t.session.link.toScene.isDry then (.error (.link .hostGone), t.session)
  else (((t.dispatch b).expire b).update b dt).flush

/-- Run a tick. The first tick that fails ends the session, and no later one does anything. -/
def tick (b : Behaviour κ σ) (dt : Binary64) (s : Session κ σ) :
    Except Failure Report × Session κ σ :=
  match s.failure with
  | some f => (.error (.link (.stopped f.message)), s)
  | none =>
    match s.step b dt with
    | (.ok r, s) => (.ok r, { s with stats := s.stats.count r })
    | (.error f, s) =>
      (.error f, { s.remark .error s!"stopping: {f.message}" with failure := some f })

/-- Run ticks, of these lengths in seconds, for as long as nobody stops the session. None if it is
still running after them all. -/
def ticks (b : Behaviour κ σ) (stopped : σ → Bool) :
    List Binary64 → Session κ σ → Option (Except Failure Stats) × Session κ σ
  | dts, s =>
    if stopped s.stage.memory then
      let text := s!"Scene '{s.config.sceneId}' stopped after {s.stats.ticks} ticks " ++
        s!"({s.stats.batches} batches, {s.stats.ops} ops)"
      (some (.ok s.stats), s.log (.say .info Target.session text))
    else
      match dts with
      | [] => (none, s)
      | dt :: dts =>
        match s.tick b dt with
        | (.ok _, s) => ticks b stopped dts s
        | (.error f, s) => (some (.error f), s)

def run (b : Behaviour κ σ) (stopped : σ → Bool) (dts : List Binary64) (s : Session κ σ) :
    Option (Except Failure Stats) × Session κ σ :=
  let text := s!"Scene '{s.config.sceneId}' running at {s.config.tickRate} Hz"
  ticks b stopped dts (s.log (.say .info Target.session text))

end Session

end Diorama
