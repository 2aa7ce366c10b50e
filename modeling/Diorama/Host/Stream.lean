import Diorama.Host.Link
import Diorama.Log.Event

namespace Diorama

namespace Stream

def report (level : Level) (text : String) : Event := .say level Target.stream text

/-- Pass frames to the scene until one of the two is gone, or the stream fails. The event tells
which. -/
def pass (scene : Lane) : List (Except FrameError String) → Lane × Option Event
  | [] => (scene.dropSender, none)
  | .ok frame :: rest =>
    match scene.send? frame with
    | some scene => pass scene rest
    | none =>
      (scene.dropSender, some (report .debug "Scene port dropped, stopping stream reader"))
  | .error .closed :: _ => (scene.dropSender, some (report .debug "Host closed the stream"))
  | .error e :: _ =>
    (scene.dropSender, some (report .error s!"Failed to read frame from host: {e.message}"))

def read (max : Nat) (bytes : List UInt8) (scene : Lane) : Lane × Option Event :=
  pass scene (Frame.readAll (Frame.read max) bytes).1

def put (max : Nat) (isRead : Bool) (frame : String) : Except FrameError (List UInt8) := do
  let bytes ← Frame.write max frame
  if isRead then return bytes else .error .unread

/-- Write frames until one fails; then the task ends, and the frames behind it are lost. -/
def writeFrames (max : Nat) (isRead : Bool) : List String → List UInt8 × Option FrameError
  | [] => ([], none)
  | frame :: rest =>
    match put max isRead frame with
    | .ok bytes =>
      let (more, e) := writeFrames max isRead rest
      (bytes ++ more, e)
    | .error e => ([], some e)

/-- The writing task until it waits for the scene. What it took out of the lane before it failed is
gone. -/
def write (max : Nat) (isRead : Bool) (host : Lane) : List UInt8 × Lane × Option Event :=
  if host.hasReceiver then
    let (frames, lane) := host.takeAll
    match writeFrames max isRead frames with
    | (bytes, none) => (bytes, lane, none)
    | (bytes, some e) =>
      (bytes, lane.dropReceiver,
        some (report .error s!"Failed to write frame to host: {e.message}"))
  else ([], host, none)

end Stream

end Diorama
