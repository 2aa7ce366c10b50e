import Diorama.Config
import Diorama.Host.Inbox
import Diorama.Host.Outbox
import Diorama.Scene.Dispatch
import Diorama.Scene.Replica
import Diorama.Scene.Schedule

namespace Diorama

structure Report where
  tick : Nat
  /-- Events that were delivered, to however many subscribers. -/
  events : Nat := 0
  resolved : Nat := 0
  timedOut : Nat := 0
  dropped : List Drop := []
  systems : Nat := 0
  failures : List Failure := []
  /-- Subscribers that failed, and callbacks of queries that broke off. -/
  handlerFailures : Nat := 0
  flushed : Option Flushed := none

structure Stats where
  ticks : Nat := 0
  batches : Nat := 0
  ops : Nat := 0
  deadEntity : Nat := 0
  unmatched : Nat := 0
  malformed : Nat := 0
  systemFailures : Nat := 0
  handlerFailures : Nat := 0
  deriving DecidableEq, Inhabited

namespace Stats

def dropped (s : Stats) : Nat := s.deadEntity + s.unmatched + s.malformed

def countDrop (s : Stats) : Drop → Stats
  | .deadEntity .. => { s with deadEntity := s.deadEntity + 1 }
  | .unmatched _ => { s with unmatched := s.unmatched + 1 }
  | .malformed _ => { s with malformed := s.malformed + 1 }

def count (s : Stats) (r : Report) : Stats :=
  let s := r.dropped.foldl countDrop s
  { s with
    ticks := s.ticks + 1
    systemFailures := s.systemFailures + r.failures.length
    handlerFailures := s.handlerFailures + r.handlerFailures
    batches := s.batches + r.flushed.toList.length
    ops := s.ops + (r.flushed.map (·.ops)).getD 0 }

end Stats

structure Session (κ σ : Type) where
  config : Config
  stage : Stage κ σ
  systems : Members (System κ) := []
  subscriptions : Members (Subscription κ) := []
  /-- Oldest first. -/
  inbox : List Arrival := []
  outbox : Outbox
  replica : Replica := {}
  link : Link := {}
  /-- The systems of a session that pauses do not run; all else goes on. -/
  paused : Bool := false
  stats : Stats := {}
  failure : Option Failure := none

namespace Session

variable {κ σ : Type}

def start (config : Config) (world : World κ) (memory : σ) : Session κ σ where
  config
  stage := { world, memory }
  outbox := { max := config.maxMessageSize.bytes, sendEmpty := config.sendEmptyBatches }

def world (s : Session κ σ) : World κ := s.stage.world

def setWorld (s : Session κ σ) (world : World κ) : Session κ σ :=
  { s with stage := { s.stage with world } }

def isFailed (s : Session κ σ) : Bool := s.failure.isSome

def log (s : Session κ σ) (e : Event) : Session κ σ := { s with stage := s.stage.log e }

def remark (s : Session κ σ) (level : Level) (text : String) : Session κ σ :=
  s.log (.speak level Target.session s.config.sceneId (.quoted "session") text)

def pause (s : Session κ σ) : Session κ σ :=
  if s.paused then s else { s.remark .debug "paused" with paused := true }

def resume (s : Session κ σ) : Session κ σ :=
  if s.paused then { s.remark .debug "resumed" with paused := false } else s

end Session

end Diorama
