import Diorama.Proofs.Conduit

namespace Diorama

namespace Conduit

open Diorama.Frame

variable {max : Nat} {ms : List Move} {m : Move} {c c' : Conduit}

/-- What the writing task has done by now, and why it has ended if it has. -/
inductive Writing (max : Nat) (ms : List Move) (c : Conduit) : Prop
  | running (hr : c.link.toHost.hasReceiver = true) (hf : c.link.toHost.frames = sent ms)
      (hs : ∀ frame ∈ c.link.toHost.taken, frame.utf8ByteSize ≤ max)
      (hw : c.written ++ c.leaving = c.link.toHost.taken.flatMap encode)
  | ended (hr : c.link.toHost.hasReceiver = false)
      (hd : .drop ∈ ms ∨ ∃ frame ∈ sent ms, max < frame.utf8ByteSize)
      (hl : c.leaving = []) (hw : c.written = (fitting max (sent ms)).flatMap encode)

namespace Writing

theorem taken (h : Writing max ms c) (hr : c.link.toHost.hasReceiver = true) :
    c.link.toHost.frames = sent ms ∧
      (∀ frame ∈ c.link.toHost.taken, frame.utf8ByteSize ≤ max) ∧
      c.written ++ c.leaving = c.link.toHost.taken.flatMap encode := by
  cases h with
  | running _ hf hs hw => exact ⟨hf, hs, hw⟩
  | ended hr' =>
    rw [hr] at hr'
    cases hr'

theorem concluded (h : Writing max ms c) (hr : c.link.toHost.hasReceiver = false) :
    (.drop ∈ ms ∨ ∃ frame ∈ sent ms, max < frame.utf8ByteSize) ∧
      c.leaving = [] ∧ c.written = (fitting max (sent ms)).flatMap encode := by
  cases h with
  | running hr' =>
    rw [hr] at hr'
    cases hr'
  | ended _ hd hl hw => exact ⟨hd, hl, hw⟩

theorem keep (h : Writing max ms c) (hm : m.frame? = none)
    (hh : c'.link.toHost.frames = c.link.toHost.frames)
    (ht : c'.link.toHost.taken = c.link.toHost.taken)
    (hr : c'.link.toHost.hasReceiver = c.link.toHost.hasReceiver)
    (hl : c'.leaving = c.leaving) (hw : c'.written = c.written) : Writing max (ms ++ [m]) c' := by
  have hs := sent_of_frame? hm ms
  cases h with
  | running hr' hf hs' hw' =>
    exact .running (hr.trans hr') (by rw [hh, hf, hs]) (by rwa [ht]) (by rwa [hw, hl, ht])
  | ended hr' hd hl' hw' =>
    rw [← hs] at hd hw'
    exact .ended (hr.trans hr') (hd.imp_left (List.mem_append_left _)) (hl.trans hl')
      (hw.trans hw')

theorem send {frame : String} (h : Writing max ms c) (hd : .drop ∉ ms)
    (hr : c.link.toHost.hasReceiver = true) :
    Writing max (ms ++ [.send frame])
      { c with link.toHost.waiting := c.link.toHost.waiting ++ [frame] } := by
  obtain ⟨hf, hs, hw⟩ := h.taken hr
  refine .running hr ?_ hs hw
  rw [sent_concat, if_neg hd, ← hf]
  exact (List.append_assoc ..).symm

theorem sendLost {frame : String} (h : Writing max ms c)
    (hn : .drop ∈ ms ∨ c.link.toHost.hasReceiver = false) :
    Writing max (ms ++ [.send frame]) c := by
  by_cases hd : .drop ∈ ms
  · have hs : sent (ms ++ [.send frame]) = sent ms := by rw [sent_concat, if_pos hd]
    cases h with
    | running hr hf hs' hw => exact .running hr (hf.trans hs.symm) hs' hw
    | ended hr _ hl hw => exact .ended hr (.inl (List.mem_append_left _ hd)) hl (by rw [hs, hw])
  · have hr := hn.resolve_left hd
    obtain ⟨hd', hl, hw⟩ := h.concluded hr
    obtain ⟨long, hm, hlong⟩ := hd'.resolve_left hd
    have hs : sent (ms ++ [.send frame]) = sent ms ++ [frame] := by
      rw [sent_concat, if_neg hd]
      rfl
    refine .ended hr (.inr ⟨long, ?_, hlong⟩) hl ?_
    · rw [hs]
      exact List.mem_append_left _ hm
    · rw [hs, fitting_append_long ⟨long, hm, hlong⟩, hw]

theorem step (h : Writing max ms c) (hp : Ports ms c) (hx : Acts max c m c') :
    Writing max (ms ++ [m]) c' := by
  cases hx with
  | send hs hr => exact h.send (hp.sends.mp hs) hr
  | sendLost hn => exact h.sendLost (hn.imp_left hp.dropped)
  | @take frame rest hr hl hw hm =>
    obtain ⟨hf, hs, hb⟩ := h.taken hr
    rw [hl, List.append_nil] at hb
    refine .running hr ?_ ?_ ?_
    · rw [sent_of_frame? rfl, ← hf, Lane.frames, Lane.frames, hw]
      simp
    · intro x hx
      obtain hx | hx := List.mem_append.mp hx
      · exact hs x hx
      · rwa [List.mem_singleton.mp hx]
    · simp [hb]
  | @takeLong frame rest hr hl hw hm =>
    obtain ⟨hf, hs, hb⟩ := h.taken hr
    rw [hl, List.append_nil] at hb
    have hn : sent (ms ++ [.take]) = c.link.toHost.taken ++ frame :: rest := by
      rw [sent_of_frame? rfl, ← hf, Lane.frames, hw]
    refine .ended rfl (.inr ⟨frame, ?_, hm⟩) hl ?_
    · rw [hn]
      exact List.mem_append_right _ (.head _)
    · rw [hn, fitting_append hs, fitting_cons, if_neg (Nat.not_le.mpr hm), List.append_nil, ← hb]
  | takeNone hr hl hw hs =>
    obtain ⟨hf, hs', hb⟩ := h.taken hr
    rw [hl, List.append_nil] at hb
    have hd := hp.dropped hs
    refine .ended rfl (.inl (List.mem_append_left _ hd)) hl ?_
    rw [sent_concat, if_pos hd, ← hf, Lane.frames, hw, List.append_nil, fitting_eq_self hs', ← hb]
  | write n =>
    have hn : sent (ms ++ [.write n]) = sent ms := sent_of_frame? rfl ms
    cases h with
    | running hr hf hs hw =>
      refine .running hr (hf.trans hn.symm) hs ?_
      rw [List.append_assoc, List.take_append_drop, hw]
    | ended hr hd hl hw =>
      rw [← hn] at hd hw
      exact .ended hr (hd.imp_left (List.mem_append_left _)) (by rw [hl, List.drop_nil])
        (by rw [hl, List.take_nil, List.append_nil, hw])
  | _ => exact h.keep rfl rfl rfl rfl rfl rfl

end Writing

theorem after_writing (max : Nat) (ms : List Move) : Writing max ms (after max ms) := by
  refine (after_induction (P := fun ms c => Ports ms c ∧ Writing max ms c) ?_ ?_ ms).2
  · exact ⟨by constructor <;> simp, .running rfl rfl nofun rfl⟩
  · intro ms c m ⟨hp, hw⟩
    have hx := step_acts max c m
    exact ⟨hx.ports hp, hw.step hp hx⟩

/-- What the reading task has done by now while the scene has its port, and why it has ended if it
has. -/
inductive Reading (max : Nat) (ms : List Move) (c : Conduit) : Prop
  | running (hr : c.link.toScene.hasSender = true)
      (hf : ∀ more, frames max (supplied ms ++ more) =
        c.link.toScene.frames ++ frames max (c.arriving ++ more))
  | ended (hr : c.link.toScene.hasSender = false)
      (hf : c.link.toScene.frames = frames max (supplied ms))
      (hd : .close ∈ ms ∨ ∀ more, frames max (supplied ms ++ more) = c.link.toScene.frames)

namespace Reading

theorem keep (h : Reading max ms c) (hm : m.bytes = [])
    (hh : c'.link.toScene.frames = c.link.toScene.frames)
    (hr : c'.link.toScene.hasSender = c.link.toScene.hasSender)
    (ha : c'.arriving = c.arriving) : Reading max (ms ++ [m]) c' := by
  have hs := supplied_of_bytes hm ms
  cases h with
  | running hr' hf =>
    rw [← hs, ← hh, ← ha] at hf
    exact .running (hr.trans hr') hf
  | ended hr' hf hd =>
    rw [← hs, ← hh] at hf hd
    exact .ended (hr.trans hr') hf (hd.imp_left (List.mem_append_left _))

theorem supply {bytes : List UInt8} (h : Reading max ms c) (hc : .close ∉ ms) :
    Reading max (ms ++ [.supply bytes]) { c with arriving := c.arriving ++ bytes } := by
  have hs : supplied (ms ++ [.supply bytes]) = supplied ms ++ bytes := by
    rw [supplied_concat, if_neg hc]
    rfl
  cases h with
  | running hr hf =>
    refine .running hr fun more => ?_
    rw [hs, List.append_assoc, hf, List.append_assoc]
  | ended hr hf hd =>
    have hd := hd.resolve_left hc
    refine .ended hr ?_ (.inr fun more => ?_)
    · rw [hs, hd]
    · rw [hs, List.append_assoc, hd]

theorem unread (h : Reading max ms c) (hr : c.link.toScene.hasSender = true) (more : List UInt8) :
    frames max (supplied ms ++ more) =
      c.link.toScene.frames ++ frames max (c.arriving ++ more) := by
  cases h with
  | running _ hf => exact hf more
  | ended hr' =>
    rw [hr] at hr'
    cases hr'

theorem step (h : Reading max ms c) (hp : Ports ms c) (hk : .drop ∉ ms) (hx : Acts max c m c') :
    Reading max (ms ++ [m]) c' := by
  cases hx with
  | supply ho => exact h.supply (hp.isOpen.mp ho)
  | @supplyLost bytes ho =>
    have hc := hp.closed ho
    have hs : supplied (ms ++ [.supply bytes]) = supplied ms := by rw [supplied_concat, if_pos hc]
    cases h with
    | running hr hf => exact .running hr (by rwa [hs])
    | ended hr hf hd => exact .ended hr (by rwa [hs]) (.inl (List.mem_append_left _ hc))
  | receive hk' hw =>
    refine h.keep rfl ?_ rfl rfl
    rw [Lane.frames, Lane.frames, hw]
    simp
  | @read frame rest hc hr hk' =>
    obtain ⟨hs, hd⟩ := canRead_iff.mp hc
    -- An undecided read cannot give a frame, not even at the end of the stream.
    have hd : isDecided max c.arriving = true := by
      by_cases hn : isDecided max c.arriving = true
      · exact hn
      · obtain ⟨e, t, he⟩ := read_undecided (Bool.eq_false_iff.mpr hn)
        rw [hr] at he
        cases he
    refine .running hs fun more => ?_
    have hm : Frame.read max (c.arriving ++ more) = (.ok frame, rest ++ more) := by
      rw [read_append hd, hr]
    rw [supplied_of_bytes rfl, h.unread hs, frames_ok hm, Lane.frames, Lane.frames]
    simp
  | @readLast r rest hc hr he =>
    obtain ⟨hs, hd⟩ := canRead_iff.mp hc
    obtain e | frame := r
    · have hn : supplied (ms ++ [.read]) = supplied ms := supplied_of_bytes rfl ms
      have hf := h.unread hs []
      rw [List.append_nil, List.append_nil, frames_error hr, List.append_nil] at hf
      refine .ended rfl (hn ▸ hf.symm) (hd.symm.imp (fun ho => ?_) fun hd more => ?_)
      · exact List.mem_append_left _ (hp.closed ho)
      · have hm : Frame.read max (c.arriving ++ more) = (.error e, rest ++ more) := by
          rw [read_append hd, hr]
        rw [hn, h.unread hs, frames_error hm, List.append_nil]
        rfl
    · have hk' := hp.receives.mpr hk
      rw [he rfl] at hk'
      cases hk'
  | _ => exact h.keep rfl rfl rfl rfl

end Reading

theorem after_reading (max : Nat) {ms : List Move} (hk : .drop ∉ ms) :
    Reading max ms (after max ms) := by
  refine (after_induction (P := fun ms c => Ports ms c ∧ (.drop ∉ ms → Reading max ms c)) ?_ ?_
    ms).2 hk
  · exact ⟨by constructor <;> simp, fun _ => .running rfl fun _ => rfl⟩
  · intro ms c m ⟨hp, hr⟩
    have hx := step_acts max c m
    refine ⟨hx.ports hp, fun hk => ?_⟩
    have hk : .drop ∉ ms := fun hd => hk (List.mem_append_left _ hd)
    exact (hr hk).step hp hk hx

theorem writeFrames_eq (max : Nat) (texts : List String) :
    (Stream.writeFrames max true texts).1 = (fitting max texts).flatMap encode := by
  induction texts with
  | nil => rfl
  | cons text texts ih =>
    have hp : Stream.put max true text = Frame.write max text := by
      rw [Stream.put]
      cases Frame.write max text <;> rfl
    rw [Stream.writeFrames, hp, write_eq, fitting_cons]
    by_cases hm : text.utf8ByteSize ≤ max
    · rw [if_neg (Nat.not_lt.mpr hm), if_pos hm, List.flatMap_cons, ← ih]
    · rw [if_pos (Nat.lt_of_not_le hm), if_neg hm]
      rfl

theorem pass_frames {scene : Lane} (hk : scene.hasReceiver = true) (texts : List String)
    (e : FrameError) :
    (Stream.pass scene (texts.map .ok ++ [.error e])).1.frames = scene.frames ++ texts := by
  induction texts generalizing scene with
  | nil => cases e <;> exact (List.append_nil _).symm
  | cons text texts ih =>
    have ih := @ih { scene with waiting := scene.waiting ++ [text] } hk
    rw [List.map_cons, List.cons_append, Stream.pass, Lane.send?_of_receiver hk]
    refine Eq.trans ih ?_
    rw [Lane.frames, Lane.frames]
    simp

theorem read_frames (max : Nat) (bytes : List UInt8) :
    (Stream.read max bytes {}).1.frames = frames max bytes := by
  obtain ⟨e, he⟩ := readAll_frames max bytes
  rw [Stream.read, he, pass_frames rfl]
  rfl

namespace Writing

theorem fitting_sent (h : Writing max ms c) (hr : c.link.toHost.hasReceiver = true) :
    fitting max (sent ms) = c.link.toHost.taken ++ fitting max c.link.toHost.waiting := by
  obtain ⟨hf, hs, _⟩ := h.taken hr
  rw [← hf, Lane.frames, fitting_append hs]

theorem begins (h : Writing max ms c) :
    c.written <+: (fitting max (sent ms)).flatMap encode := by
  by_cases hr : c.link.toHost.hasReceiver = true
  · obtain ⟨_, _, hw⟩ := h.taken hr
    rw [h.fitting_sent hr, List.flatMap_append, ← hw, List.append_assoc]
    exact List.prefix_append ..
  · obtain ⟨_, _, hw⟩ := h.concluded (Bool.eq_false_iff.mpr hr)
    exact hw ▸ List.prefix_rfl

theorem written_eq (h : Writing max ms c) (hc : c.canWrite = false) :
    c.written = (fitting max (sent ms)).flatMap encode := by
  by_cases hr : c.link.toHost.hasReceiver = true
  · obtain ⟨⟨hl, hn⟩, _⟩ := (canWrite_eq_false.mp hc).resolve_left (by simp [hr])
    obtain ⟨_, _, hw⟩ := h.taken hr
    rw [h.fitting_sent hr, hn, show fitting max [] = [] from rfl, List.append_nil, ← hw, hl,
      List.append_nil]
  · exact (h.concluded (Bool.eq_false_iff.mpr hr)).2.2

theorem fitting_eq (h : Writing max ms c) (hc : c.canWrite = false)
    (hr : c.link.toHost.hasReceiver = true) : fitting max (sent ms) = sent ms := by
  obtain ⟨⟨_, hn⟩, _⟩ := (canWrite_eq_false.mp hc).resolve_left (by simp [hr])
  rw [h.fitting_sent hr, ← (h.taken hr).1, Lane.frames, hn]
  rfl

theorem dropped (h : Writing max ms c) (hr : c.link.toHost.hasReceiver = false)
    (hf : fitting max (sent ms) = sent ms) : .drop ∈ ms := by
  refine (h.concluded hr).1.resolve_right ?_
  rintro ⟨frame, hm, hl⟩
  exact Nat.not_lt.mpr (mem_fitting (hf.symm ▸ hm)) hl

end Writing

namespace Reading

theorem begins (h : Reading max ms c) :
    c.link.toScene.frames <+: frames max (supplied ms) := by
  cases h with
  | running hr hf =>
    have hf := hf []
    rw [List.append_nil] at hf
    rw [hf]
    exact List.prefix_append ..
  | ended hr hf => exact hf ▸ List.prefix_rfl

theorem frames_eq (h : Reading max ms c) (hc : c.canRead max = false) :
    c.link.toScene.frames = frames max (supplied ms) := by
  cases h with
  | running hr hf =>
    have hd : isDecided max c.arriving = false := by
      rw [← Bool.not_eq_true]
      intro hd
      rw [canRead_iff.mpr ⟨hr, .inl hd⟩] at hc
      cases hc
    obtain ⟨e, t, he⟩ := read_undecided hd
    have hf := hf []
    rw [List.append_nil, List.append_nil, frames_error he, List.append_nil] at hf
    exact hf.symm
  | ended hr hf => exact hf

theorem ended_frames (h : Reading max ms c) (hs : c.link.toScene.hasSender = false) :
    c.link.toScene.frames = frames max (supplied ms) :=
  h.frames_eq (by rw [canRead, hs, Bool.false_and])

theorem taken_of_dry (h : Reading max ms c) (hd : c.link.toScene.isDry = true) :
    c.link.toScene.taken = frames max (supplied ms) := by
  obtain ⟨hw, hs⟩ := Lane.isDry_iff.mp hd
  have hf := h.ended_frames hs
  rwa [Lane.frames, hw, List.append_nil] at hf

theorem isDry_of_taken (h : Reading max ms c) (hs : c.link.toScene.hasSender = false)
    (ht : c.link.toScene.taken = frames max (supplied ms)) : c.link.toScene.isDry = true := by
  have hf := h.ended_frames hs
  rw [← ht, Lane.frames, List.append_right_eq_self] at hf
  exact Lane.isDry_iff.mpr ⟨hf, hs⟩

theorem offers (h : Reading max ms c) (hs : c.link.toScene.hasSender = false) :
    c.link.toScene.taken = frames max (supplied ms) ∨
      ∃ frame link, c.link.sceneReceive = .ok (some frame, link) := by
  cases hw : c.link.toScene.waiting with
  | nil => exact .inl (h.taken_of_dry (Lane.isDry_iff.mpr ⟨hw, hs⟩))
  | cons frame rest =>
    have hd : ¬ c.link.toScene.isDry = true := fun hd => by
      rw [(Lane.isDry_iff.mp hd).1] at hw
      cases hw
    rw [Link.sceneReceive_of_not_dry hd, Lane.next_of_cons hw]
    exact .inr ⟨frame, _, rfl⟩

theorem fails {f : Failure} (h : Reading max ms c) (hf : c.link.sceneReceive = .error f) :
    c.link.toScene.taken = frames max (supplied ms) := by
  by_cases hd : c.link.toScene.isDry = true
  · exact h.taken_of_dry hd
  · rw [Link.sceneReceive_of_not_dry hd] at hf
    cases hf

end Reading

/-- A conduit that passes frames on faithfully, as far as it can. -/
structure Faithful (max : Nat) (ms : List Move) (c : Conduit) : Prop where
  /-- The host is written the frames that fit, in order. -/
  begun : c.written <+: (fitting max (sent ms)).flatMap encode
  lengths (frame : String) : frame ∈ fitting max (sent ms) →
    ∃ a b c d, encode frame = a :: b :: c :: d :: utf8 frame ∧ ofWord a b c d = frame.utf8ByteSize
  written : c.canWrite = false → c.written = (fitting max (sent ms)).flatMap encode
  /-- The writing task ends at a frame that is too long. -/
  overlong : c.canWrite = false → fitting max (sent ms) ≠ sent ms →
    c.link.toHost.hasReceiver = false
  /-- It does not end before the port is dropped if there is none. -/
  outlasts : c.link.toHost.hasReceiver = false → fitting max (sent ms) = sent ms → .drop ∈ ms
  ends : c.canWrite = false → .drop ∈ ms → c.link.toHost.hasReceiver = false
  refuses (ns : List Move) (frame : String) : c.link.toHost.hasReceiver = false →
    (after max (ms ++ ns)).link.sceneSend frame = .error (.link .hostGone)
  /-- The scene gets the frames that are read before the first error, in order. -/
  received : .drop ∉ ms → c.link.toScene.taken <+: frames max (supplied ms)
  arrived : .drop ∉ ms → c.canRead max = false →
    c.link.toScene.frames = frames max (supplied ms)
  finishes : .close ∈ ms → c.canRead max = false → c.link.toScene.hasSender = false
  offers : .drop ∉ ms → c.link.toScene.hasSender = false →
    c.link.toScene.taken = frames max (supplied ms) ∨
      ∃ frame link, c.link.sceneReceive = .ok (some frame, link)
  fails (f : Failure) : .drop ∉ ms → c.link.sceneReceive = .error f →
    c.link.toScene.taken = frames max (supplied ms)
  keepsFailing (ns : List Move) : .drop ∉ ms → c.link.toScene.hasSender = false →
    c.link.toScene.taken = frames max (supplied ms) →
      (after max (ms ++ ns)).link.sceneReceive = .error (.link .hostGone)
  /-- However the tasks take turns, they come to rest. -/
  calms (m : Move) : m.isTask = true → step max c m = c ∨ (step max c m).work < c.work
  moves : c.canRead max = true ∨ c.canWrite = true →
    ∃ m : Move, m.isTask = true ∧ (step max c m).work < c.work
  /-- Then they have done what they do in one go. -/
  writesAtOnce : (Stream.writeFrames max true (sent ms)).1 =
    (fitting max (sent ms)).flatMap encode
  readsAtOnce : (Stream.read max (supplied ms) {}).1.frames = frames max (supplied ms)

/-- Whatever turns are taken, frames pass both ways as far as they can, and a direction that has
ended says so from then on. -/
theorem conduit_is_faithful {max : Nat} (hmax : max < 0x1_0000_0000) (ms : List Move) :
    Faithful max ms (after max ms) := by
  have hp := after_ports max ms
  have hw := after_writing max ms
  have hr (hk : .drop ∉ ms) : Reading max ms (after max ms) := after_reading max hk
  refine
    { begun := hw.begins
      lengths := fun frame hm => encode_eq (Nat.lt_of_le_of_lt (mem_fitting hm) hmax)
      written := hw.written_eq
      overlong := fun hc hn => ?_
      outlasts := hw.dropped
      ends := fun hc hd => ?_
      refuses := fun ns frame hr => ?_
      received := fun hk => (List.prefix_append ..).trans (hr hk).begins
      arrived := fun hk => (hr hk).frames_eq
      finishes := fun hc hn => ?_
      offers := fun hk => (hr hk).offers
      fails := fun _ hk => (hr hk).fails
      keepsFailing := fun ns hk hs ht => ?_
      calms := fun m => (step_acts max _ m).work_lt
      moves := exists_move
      writesAtOnce := writeFrames_eq max _
      readsAtOnce := read_frames max _ }
  · rw [← Bool.not_eq_true]
    exact fun hr => hn (hw.fitting_eq hc hr)
  · exact (canWrite_eq_false.mp hc).resolve_right fun hn => hp.sends.mp hn.2 hd
  · apply Link.sceneSend_of_gone
    exact after_stays (fun c m => (step_acts max c m).stays_gone) hr ns
  · rw [← Bool.not_eq_true]
    intro hs
    have ho : (after max ms).isOpen = false := Bool.eq_false_iff.mpr fun ho => hp.isOpen.mp ho hc
    rw [canRead_iff.mpr ⟨hs, .inr ho⟩] at hn
    cases hn
  · apply Link.sceneReceive_of_dry
    exact after_stays (P := fun c => c.link.toScene.isDry = true)
      (fun c m => (step_acts max c m).stays_dry) ((hr hk).isDry_of_taken hs ht) ns

/-- A frame that is too long ends one direction, and a frame that breaks off the other. -/
theorem conduit_is_faithful_broken :
    let ms : List Move :=
      [.send "{}", .supply [0, 0, 0, 3, 0x5b, 0x31, 0x5d, 0, 0], .take, .write 3,
        .send "true", .read, .send "[]", .write 9, .take, .close, .read, .receive]
    (after 3 ms).written = [0, 0, 0, 2, 0x7b, 0x7d] ∧
      (after 3 ms).link.sceneSend "[]" = .error (.link .hostGone) ∧
      (after 3 ms).link.toScene.taken = ["[1]"] ∧
      (after 3 ms).link.sceneReceive = .error (.link .hostGone) := by
  intro ms
  have hf := @conduit_is_faithful 3 (by decide) ms
  have ht : (after 3 ms).link.toScene.taken = frames 3 (supplied ms) := by decide +kernel
  refine ⟨(hf.written (by decide +kernel)).trans (by decide +kernel), ?_, ?_, ?_⟩
  · exact hf.refuses [] "[]" (by decide +kernel)
  · exact ht.trans (by decide +kernel)
  · exact hf.keepsFailing [] (by decide) (hf.finishes (by decide) (by decide +kernel)) ht

end Conduit

end Diorama
