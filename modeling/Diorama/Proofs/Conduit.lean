import Diorama.Host.Stream
import Diorama.Proofs.Framing

namespace Diorama

namespace Lane

variable {l : Lane} {frame : String}

theorem next_of_nil (h : l.waiting = []) : l.next = (none, l) := by
  rw [next, h]

theorem next_of_cons {rest : List String} (h : l.waiting = frame :: rest) :
    l.next = (some frame, { l with taken := l.taken ++ [frame], waiting := rest }) := by
  rw [next, h]

theorem send?_of_receiver (h : l.hasReceiver = true) :
    l.send? frame = some { l with waiting := l.waiting ++ [frame] } := if_pos h

theorem send?_of_gone (h : l.hasReceiver = false) : l.send? frame = none := by
  rw [send?, h, if_neg Bool.false_ne_true]

theorem isDry_iff : l.isDry = true ↔ l.waiting = [] ∧ l.hasSender = false := by
  rw [isDry, Bool.and_eq_true, List.isEmpty_iff, Bool.not_eq_true']

end Lane

namespace Link

variable {l : Link}

theorem sceneSend_of_gone (h : l.toHost.hasReceiver = false) (frame : String) :
    l.sceneSend frame = .error (.link .hostGone) := by
  rw [sceneSend, Lane.send?_of_gone h]

theorem sceneReceive_of_dry (h : l.toScene.isDry = true) :
    l.sceneReceive = .error (.link .hostGone) := if_pos h

theorem sceneReceive_of_not_dry (h : ¬ l.toScene.isDry = true) :
    l.sceneReceive = .ok (l.toScene.next.1, { l with toScene := l.toScene.next.2 }) := if_neg h

end Link

/-- A link with its stream. A task runs as long as it holds its end of the link. -/
structure Conduit where
  link : Link := {}
  /-- What the host has written and the reading task has not read. -/
  arriving : List UInt8 := []
  isOpen : Bool := true
  /-- What the writing task has still to write of a frame. -/
  leaving : List UInt8 := []
  written : List UInt8 := []

namespace Conduit

open Diorama.Frame

inductive Move where
  | send (frame : String)
  | receive
  | drop
  | supply (bytes : List UInt8)
  | close
  /-- The reading task reads a frame and passes it on. -/
  | read
  /-- The writing task takes the next frame of the scene. -/
  | take
  /-- The writing task writes so many bytes of the frame it has. -/
  | write (n : Nat)
  deriving DecidableEq

-- A read is one move, made when all that it needs has come: nobody else sees the bytes of a frame
-- that is read in part. A frame that is written in part is seen by the host.

/-- A read ends with a frame, with an error or with the stream. -/
def canRead (max : Nat) (c : Conduit) : Bool :=
  c.link.toScene.hasSender && (isDecided max c.arriving || !c.isOpen)

def canWrite (c : Conduit) : Bool :=
  c.link.toHost.hasReceiver &&
    (!c.leaving.isEmpty || !c.link.toHost.waiting.isEmpty || !c.link.toHost.hasSender)

theorem canRead_iff {max : Nat} {c : Conduit} : c.canRead max = true ↔
    c.link.toScene.hasSender = true ∧ (isDecided max c.arriving = true ∨ c.isOpen = false) := by
  rw [canRead, Bool.and_eq_true, Bool.or_eq_true, Bool.not_eq_true']

theorem canWrite_eq_false {c : Conduit} : c.canWrite = false ↔
    c.link.toHost.hasReceiver = false ∨
      (c.leaving = [] ∧ c.link.toHost.waiting = []) ∧ c.link.toHost.hasSender = true := by
  rw [canWrite, Bool.and_eq_false_iff, Bool.or_eq_false_iff, Bool.or_eq_false_iff]
  simp only [Bool.not_eq_false', List.isEmpty_iff]

/-- Pass on what was read. A task that cannot ends. -/
def pass (scene : Lane) : Except FrameError String → Lane
  | .ok frame => (scene.send? frame).getD scene.dropSender
  | .error _ => scene.dropSender

def step (max : Nat) (c : Conduit) : Move → Conduit
  | .send frame =>
    if c.link.toHost.hasSender then
      match c.link.sceneSend frame with
      | .ok link => { c with link }
      | .error _ => c
    else c
  | .receive =>
    if c.link.toScene.hasReceiver then
      match c.link.sceneReceive with
      | .ok (_, link) => { c with link }
      | .error _ => c
    else c
  | .drop => { c with link := c.link.dropScene }
  | .supply bytes => if c.isOpen then { c with arriving := c.arriving ++ bytes } else c
  | .close => { c with isOpen := false }
  | .read =>
    if c.canRead max then
      let (r, arriving) := Frame.read max c.arriving
      { c with arriving, link.toScene := pass c.link.toScene r }
    else c
  | .take =>
    if c.canWrite && c.leaving.isEmpty then
      match c.link.toHost.next with
      | (some frame, toHost) =>
        match Frame.write max frame with
        | .ok leaving => { c with leaving, link.toHost := toHost }
        | .error _ => { c with link.toHost := toHost.dropReceiver }
      | (none, toHost) => { c with link.toHost := toHost.dropReceiver }
    else c
  | .write n => { c with leaving := c.leaving.drop n, written := c.written ++ c.leaving.take n }

def after (max : Nat) (ms : List Move) : Conduit := ms.foldl (step max) {}

/-- All that a move can come to. -/
inductive Acts (max : Nat) (c : Conduit) : Move → Conduit → Prop
  | send {frame : String} (hs : c.link.toHost.hasSender = true)
      (hr : c.link.toHost.hasReceiver = true) :
      Acts max c (.send frame)
        { c with link.toHost.waiting := c.link.toHost.waiting ++ [frame] }
  | sendLost {frame : String}
      (h : c.link.toHost.hasSender = false ∨ c.link.toHost.hasReceiver = false) :
      Acts max c (.send frame) c
  | receive {frame : String} {rest : List String} (hk : c.link.toScene.hasReceiver = true)
      (hw : c.link.toScene.waiting = frame :: rest) :
      Acts max c .receive
        { c with
          link.toScene.taken := c.link.toScene.taken ++ [frame]
          link.toScene.waiting := rest }
  | receiveNone (h : c.link.toScene.hasReceiver = false ∨ c.link.toScene.waiting = []) :
      Acts max c .receive c
  | drop : Acts max c .drop
      { c with link.toHost.hasSender := false, link.toScene.hasReceiver := false }
  | supply {bytes : List UInt8} (ho : c.isOpen = true) :
      Acts max c (.supply bytes) { c with arriving := c.arriving ++ bytes }
  | supplyLost {bytes : List UInt8} (ho : c.isOpen = false) : Acts max c (.supply bytes) c
  | close : Acts max c .close { c with isOpen := false }
  | read {frame : String} {rest : List UInt8} (hc : c.canRead max = true)
      (hr : Frame.read max c.arriving = (.ok frame, rest))
      (hk : c.link.toScene.hasReceiver = true) :
      Acts max c .read
        { c with
          arriving := rest
          link.toScene.waiting := c.link.toScene.waiting ++ [frame] }
  | readLast {r : Except FrameError String} {rest : List UInt8} (hc : c.canRead max = true)
      (hr : Frame.read max c.arriving = (r, rest))
      (he : r.isOk = true → c.link.toScene.hasReceiver = false) :
      Acts max c .read { c with arriving := rest, link.toScene.hasSender := false }
  | readNot (hc : c.canRead max = false) : Acts max c .read c
  | take {frame : String} {rest : List String} (hr : c.link.toHost.hasReceiver = true)
      (hl : c.leaving = []) (hw : c.link.toHost.waiting = frame :: rest)
      (hm : frame.utf8ByteSize ≤ max) :
      Acts max c .take
        { c with
          leaving := encode frame
          link.toHost.taken := c.link.toHost.taken ++ [frame]
          link.toHost.waiting := rest }
  | takeLong {frame : String} {rest : List String} (hr : c.link.toHost.hasReceiver = true)
      (hl : c.leaving = []) (hw : c.link.toHost.waiting = frame :: rest)
      (hm : max < frame.utf8ByteSize) :
      Acts max c .take
        { c with
          link.toHost.taken := c.link.toHost.taken ++ [frame]
          link.toHost.waiting := rest
          link.toHost.hasReceiver := false }
  | takeNone (hr : c.link.toHost.hasReceiver = true) (hl : c.leaving = [])
      (hw : c.link.toHost.waiting = []) (hs : c.link.toHost.hasSender = false) :
      Acts max c .take { c with link.toHost.hasReceiver := false }
  | takeNot (h : c.canWrite = false ∨ c.leaving ≠ []) : Acts max c .take c
  | write (n : Nat) : Acts max c (.write n)
      { c with leaving := c.leaving.drop n, written := c.written ++ c.leaving.take n }

theorem step_acts (max : Nat) (c : Conduit) (m : Move) : Acts max c m (step max c m) := by
  cases m with
  | send frame =>
    rw [step]
    by_cases hs : c.link.toHost.hasSender = true
    · rw [if_pos hs]
      by_cases hr : c.link.toHost.hasReceiver = true
      · rw [Link.sceneSend, Lane.send?_of_receiver hr]
        exact .send hs hr
      · have hr := Bool.eq_false_iff.mpr hr
        rw [Link.sceneSend_of_gone hr]
        exact .sendLost (.inr hr)
    · rw [if_neg hs]
      exact .sendLost (.inl (Bool.eq_false_iff.mpr hs))
  | receive =>
    rw [step]
    by_cases hk : c.link.toScene.hasReceiver = true
    · rw [if_pos hk]
      by_cases hd : c.link.toScene.isDry = true
      · rw [Link.sceneReceive_of_dry hd]
        exact .receiveNone (.inr (Lane.isDry_iff.mp hd).1)
      · rw [Link.sceneReceive_of_not_dry hd]
        cases hw : c.link.toScene.waiting with
        | nil =>
          rw [Lane.next_of_nil hw]
          exact .receiveNone (.inr hw)
        | cons frame rest =>
          rw [Lane.next_of_cons hw]
          exact .receive hk hw
    · rw [if_neg hk]
      exact .receiveNone (.inl (Bool.eq_false_iff.mpr hk))
  | drop => exact .drop
  | supply bytes =>
    simp only [step]
    split
    · exact .supply ‹_›
    · exact .supplyLost (Bool.eq_false_iff.mpr ‹_›)
  | close => exact .close
  | read =>
    simp only [step]
    by_cases hc : c.canRead max = true
    · rw [if_pos hc]
      rcases hr : Frame.read max c.arriving with ⟨e | frame, rest⟩
      · exact .readLast hc hr nofun
      · by_cases hk : c.link.toScene.hasReceiver = true
        · simp only [pass, Lane.send?_of_receiver hk]
          exact .read hc hr hk
        · have hk := Bool.eq_false_iff.mpr hk
          simp only [pass, Lane.send?_of_gone hk]
          exact .readLast hc hr fun _ => hk
    · rw [if_neg hc]
      exact .readNot (Bool.eq_false_iff.mpr hc)
  | take =>
    rw [step]
    by_cases hc : c.canWrite = true
    · by_cases hl : c.leaving = []
      · rw [if_pos (by rw [hc, hl]; rfl)]
        rw [canWrite, Bool.and_eq_true] at hc
        obtain ⟨hr, hn⟩ := hc
        cases hw : c.link.toHost.waiting with
        | nil =>
          rw [Lane.next_of_nil hw]
          exact .takeNone hr hl hw (by simpa [hl, hw] using hn)
        | cons frame rest =>
          rw [Lane.next_of_cons hw]
          simp only [write_eq]
          by_cases hm : max < frame.utf8ByteSize
          · rw [if_pos hm]
            exact .takeLong hr hl hw hm
          · rw [if_neg hm]
            exact .take hr hl hw (Nat.le_of_not_lt hm)
      · rw [if_neg (by simp [hl])]
        exact .takeNot (.inr hl)
    · rw [if_neg (by simp [hc])]
      exact .takeNot (.inl (Bool.eq_false_iff.mpr hc))
  | write n => exact .write n

def before (stop : Move) (ms : List Move) : List Move := ms.takeWhile (· ≠ stop)

theorem before_concat (stop : Move) (ms : List Move) (m : Move) :
    before stop (ms ++ [m]) =
      if stop ∈ ms then before stop ms else before stop ms ++ if m = stop then [] else [m] := by
  induction ms with
  | nil =>
    by_cases hm : m = stop <;> simp [before, hm]
  | cons n ms ih =>
    by_cases hn : n = stop
    · simp [before, hn]
    · simp only [before, ne_eq, decide_not, List.cons_append, List.takeWhile_cons, hn, decide_false,
        Bool.not_false, if_true, List.mem_cons, Ne.symm hn, false_or] at ih ⊢
      rw [ih]
      split <;> rfl

def Move.frame? : Move → Option String
  | .send frame => some frame
  | _ => none

def Move.bytes : Move → List UInt8
  | .supply bytes => bytes
  | _ => []

def sent (ms : List Move) : List String := (before .drop ms).filterMap Move.frame?

/-- The bytes that the host writes. -/
def supplied (ms : List Move) : List UInt8 := (before .close ms).flatMap Move.bytes

theorem sent_concat (ms : List Move) (m : Move) :
    sent (ms ++ [m]) = if .drop ∈ ms then sent ms else sent ms ++ m.frame?.toList := by
  rw [sent, before_concat]
  split
  · rfl
  · rw [List.filterMap_append]
    cases m <;> rfl

theorem supplied_concat (ms : List Move) (m : Move) :
    supplied (ms ++ [m]) = if .close ∈ ms then supplied ms else supplied ms ++ m.bytes := by
  rw [supplied, before_concat]
  split
  · rfl
  · rw [List.flatMap_append]
    cases m <;> simp [Move.bytes, supplied]

theorem sent_of_frame? {m : Move} (hm : m.frame? = none) (ms : List Move) :
    sent (ms ++ [m]) = sent ms := by
  rw [sent_concat, hm, Option.toList_none, List.append_nil, ite_self]

theorem supplied_of_bytes {m : Move} (hm : m.bytes = []) (ms : List Move) :
    supplied (ms ++ [m]) = supplied ms := by
  rw [supplied_concat, hm, List.append_nil, ite_self]

theorem after_induction {max : Nat} {P : List Move → Conduit → Prop} (h : P [] {})
    (hs : ∀ ms c m, P ms c → P (ms ++ [m]) (step max c m)) (ms : List Move) :
    P ms (after max ms) := by
  have along (ms ns : List Move) (c : Conduit) (hc : P ms c) :
      P (ms ++ ns) (ns.foldl (step max) c) := by
    induction ns generalizing ms c with
    | nil => rwa [List.append_nil]
    | cons n ns ih =>
      rw [List.append_cons]
      exact ih _ _ (hs ms c n hc)
  exact along [] ms {} h

variable {max : Nat} {ms : List Move} {m : Move} {c c' : Conduit}

/-- Who still holds an end. -/
structure Ports (ms : List Move) (c : Conduit) : Prop where
  sends : c.link.toHost.hasSender = true ↔ .drop ∉ ms
  receives : c.link.toScene.hasReceiver = true ↔ .drop ∉ ms
  isOpen : c.isOpen = true ↔ .close ∉ ms

namespace Ports

theorem dropped (h : Ports ms c) (hs : c.link.toHost.hasSender = false) : .drop ∈ ms :=
  Decidable.not_not.mp fun hd => by simp [h.sends.mpr hd] at hs

theorem closed (h : Ports ms c) (ho : c.isOpen = false) : .close ∈ ms :=
  Decidable.not_not.mp fun hd => by simp [h.isOpen.mpr hd] at ho

end Ports

theorem Acts.ports (hx : Acts max c m c') (h : Ports ms c) : Ports (ms ++ [m]) c' := by
  cases hx <;> exact ⟨by simp [h.sends], by simp [h.receives], by simp [h.isOpen]⟩

theorem after_ports (max : Nat) (ms : List Move) : Ports ms (after max ms) :=
  after_induction (by constructor <;> simp) (fun _ c m h => (step_acts max c m).ports h) ms

theorem Acts.stays_gone (hx : Acts max c m c') (h : c.link.toHost.hasReceiver = false) :
    c'.link.toHost.hasReceiver = false := by
  cases hx <;> first | exact h | rfl

theorem Acts.stays_dry (hx : Acts max c m c') (h : c.link.toScene.isDry = true) :
    c'.link.toScene.isDry = true := by
  obtain ⟨hw, hs⟩ := Lane.isDry_iff.mp h
  cases hx with
  | receive _ hw' =>
    rw [hw] at hw'
    cases hw'
  | read hc =>
    rw [(canRead_iff.mp hc).1] at hs
    cases hs
  | readLast hc => exact Lane.isDry_iff.mpr ⟨hw, rfl⟩
  | _ => exact h

theorem after_stays {P : Conduit → Prop} (hs : ∀ c m, P c → P (step max c m))
    (h : P (after max ms)) (ns : List Move) : P (after max (ms ++ ns)) := by
  rw [after, List.foldl_append]
  change P (ns.foldl (step max) (after max ms))
  generalize after max ms = c at h
  induction ns generalizing c with
  | nil => exact h
  | cons n ns ih => exact ih _ (hs c n h)

def Move.isTask : Move → Bool
  | .read | .take | .write _ => true
  | _ => false

/-- What the tasks have still to do, at most. -/
def work (c : Conduit) : Nat :=
  (if c.link.toScene.hasSender then c.arriving.length + 1 else 0) + c.leaving.length +
    if c.link.toHost.hasReceiver then
      (c.link.toHost.waiting.flatMap encode).length + c.link.toHost.waiting.length + 1
    else 0

namespace Acts

theorem read_lt (hx : Acts max c .read c') (hc : c.canRead max = true) : c'.work < c.work := by
  have hs := (canRead_iff.mp hc).1
  cases hx with
  | read _ hr =>
    have ha := read_advances max c.arriving
    rw [hr] at ha
    have ha := ha rfl
    simp only [work, hs, if_true] at ha ⊢
    omega
  | readLast =>
    simp only [work, hs, if_true]
    simp
  | readNot hn =>
    rw [hc] at hn
    cases hn

theorem take_lt (hx : Acts max c .take c') (hc : c.canWrite = true) (hl : c.leaving = []) :
    c'.work < c.work := by
  cases hx with
  | take hr _ hw =>
    simp only [work, hr, hw, hl, if_true, List.flatMap_cons, List.length_append, List.length_cons,
      List.length_nil]
    omega
  | takeLong hr _ hw =>
    simp only [work, hr, hw, hl, if_true, List.flatMap_cons, List.length_append, List.length_cons]
    simp
  | takeNone hr =>
    simp only [work, hr, if_true]
    simp
  | takeNot h =>
    obtain h | h := h
    · rw [hc] at h
      cases h
    · exact absurd hl h

theorem write_lt {n : Nat} (hx : Acts max c (.write (n + 1)) c') (hl : c.leaving ≠ []) :
    c'.work < c.work := by
  cases hx
  have hp := List.length_pos_iff.mpr hl
  simp only [work, List.length_drop]
  omega

/-- A task comes closer to its rest, or it stays as it is. -/
theorem work_lt (hx : Acts max c m c') (hm : m.isTask = true) : c' = c ∨ c'.work < c.work := by
  cases m with
  | read =>
    by_cases hc : c.canRead max = true
    · exact .inr (hx.read_lt hc)
    · cases hx with
      | readNot => exact .inl rfl
      | read hc' => exact absurd hc' hc
      | readLast hc' => exact absurd hc' hc
  | take =>
    by_cases hc : c.canWrite = true ∧ c.leaving = []
    · exact .inr (hx.take_lt hc.1 hc.2)
    · cases hx with
      | takeNot => exact .inl rfl
      | take hr hl hw => exact absurd ⟨by simp [canWrite, hr, hw], hl⟩ hc
      | takeLong hr hl hw => exact absurd ⟨by simp [canWrite, hr, hw], hl⟩ hc
      | takeNone hr hl hw hs => exact absurd ⟨by simp [canWrite, hr, hs], hl⟩ hc
  | write n =>
    by_cases hl : c.leaving = []
    · cases hx
      obtain ⟨link, arriving, isOpen, leaving, written⟩ := c
      obtain rfl : leaving = [] := hl
      exact .inl (by simp)
    · cases n with
      | zero =>
        cases hx
        exact .inl (by simp)
      | succ n => exact .inr (hx.write_lt hl)
  | _ => cases hm

end Acts

theorem exists_move (h : c.canRead max = true ∨ c.canWrite = true) :
    ∃ m : Move, m.isTask = true ∧ (step max c m).work < c.work := by
  obtain h | h := h
  · exact ⟨.read, rfl, (step_acts max c .read).read_lt h⟩
  · by_cases hl : c.leaving = []
    · exact ⟨.take, rfl, (step_acts max c .take).take_lt h hl⟩
    · exact ⟨.write 1, rfl, (step_acts max c (.write 1)).write_lt hl⟩

end Conduit

end Diorama
