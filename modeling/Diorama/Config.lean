import Diorama.ByteSize
import Diorama.Load
import Diorama.Log.Level
import Diorama.Schema.Check

/-!
The configuration of a session. A document is first held against the published schema, which knows
numbers only by their values, and then read, which takes integers only.
-/

namespace Diorama

structure Config where
  sceneId : String := "scene"
  tickRate : Nat := 30
  maxMessageSize : ByteSize := .standard
  /-- Ticks that a question may stay unanswered; with 0 it may forever. -/
  queryTimeoutTicks : Nat := 300
  sendEmptyBatches : Bool := false
  logLevel : String := "info"
  deriving DecidableEq, Inhabited

namespace Config

def minRate : Nat := 1
def maxRate : Nat := 240

/-- The length of a tick in nanoseconds, to the nearest. -/
def tickInterval (c : Config) : Nat :=
  let rate := max minRate (min c.tickRate maxRate)
  (2_000_000_000 + rate) / (2 * rate)

def level (c : Config) : Level := (Level.parse c.logLevel).getD .info

def fieldConforms (name : String) (v : Json) : Bool :=
  match name with
  | "scene_id" => Schema.isText v
  | "tick_rate" => Schema.isWhole (fun n => minRate ≤ n ∧ n ≤ maxRate) v
  | "max_message_size" => Schema.isText v || Schema.isWhole (fun _ => true) v
  | "query_timeout_ticks" => Schema.isWhole (0 ≤ ·) v
  | "send_empty_batches" => Schema.isBool v
  | "log_level" => v.string?.any fun s => (Level.named? s).isSome
  | _ => true

def conforms : Json → Bool := Schema.isObject [] fieldConforms

def field {α : Type} (fs : List (String × Json)) (name : String) (absent : α)
    (read : Json → Option α) : Option α :=
  match find? name fs with
  | some v => read v
  | none => some absent

def nat32? (v : Json) : Option Nat := v.nat?.filter (· < 0x1_0000_0000)

def ofJson? : Json → Option Config
  | .obj fs => do
    let d : Config := {}
    return {
      sceneId := ← field fs "scene_id" d.sceneId Json.string?
      tickRate := ← field fs "tick_rate" d.tickRate Json.nat?
      maxMessageSize := ← field fs "max_message_size" d.maxMessageSize ByteSize.ofJson?
      queryTimeoutTicks := ← field fs "query_timeout_ticks" d.queryTimeoutTicks nat32?
      sendEmptyBatches := ← field fs "send_empty_batches" d.sendEmptyBatches Json.bool?
      logLevel := ← field fs "log_level" d.logLevel Json.string? }
  | _ => none

def ofJson (v : Json) : Except LoadError Config :=
  if conforms v then
    match ofJson? v with
    | some c => .ok c
    | none => .error (.unreadable .mismatch)
  else .error .invalid

def load (s : Source) : Except LoadError Config := do ofJson (← s.json)

def render (c : Config) : List Char :=
  Json.brace [
    ("scene_id", Json.quote c.sceneId),
    ("tick_rate", Nat.toDigits 10 c.tickRate),
    ("max_message_size", Json.quote c.maxMessageSize.text),
    ("query_timeout_ticks", Nat.toDigits 10 c.queryTimeoutTicks),
    ("send_empty_batches", Json.render (.bool c.sendEmptyBatches)),
    ("log_level", Json.quote c.logLevel)]

end Config

end Diorama
