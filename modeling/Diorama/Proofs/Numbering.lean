import Diorama.Proofs.Fates

namespace Diorama

variable {κ σ : Type}

namespace Outbox

def skips (o : Outbox) (batch : Batch) : Bool := batch.isEmpty && !o.sendEmpty

/-- All ways in which a flush ends. -/
inductive Flushes (o : Outbox) (l : Link) (batch : Batch) :
    Except Failure (Option Flushed × Outbox × Link) → Prop
  | skipped (hs : o.skips batch = true) : Flushes o l batch (.ok (none, o, l))
  | tooLarge (hs : o.skips batch = false) (hb : o.max < batch.text.utf8ByteSize) :
      Flushes o l batch (.error (.frame (.tooLarge batch.text.utf8ByteSize o.max)))
  | unread (hs : o.skips batch = false) (hr : l.toHost.hasReceiver = false) :
      Flushes o l batch (.error (.link .hostGone))
  | sent (hs : o.skips batch = false) (hb : batch.text.utf8ByteSize ≤ o.max) :
      Flushes o l batch (.ok (
        some ⟨batch.seq, batch.ops.length, batch.queries.length, batch.text.utf8ByteSize⟩,
        { o with next := o.next + 1 },
        { l with toHost.waiting := l.toHost.waiting ++ [batch.text] }))

theorem flush_cases (o : Outbox) (l : Link) (ops : List Operation) (queries : List Request) :
    o.Flushes l ⟨o.next, ops, queries⟩ (o.flush l ops queries) := by
  simp only [flush, bind, Except.bind, Link.sceneSend, Lane.send?]
  by_cases hs : (Batch.isEmpty ⟨o.next, ops, queries⟩ && !o.sendEmpty) = true
  · rw [if_pos hs]
    exact .skipped hs
  rw [if_neg hs]
  have hs : o.skips ⟨o.next, ops, queries⟩ = false := Bool.eq_false_iff.mpr hs
  by_cases hb : o.max < (Batch.text ⟨o.next, ops, queries⟩).utf8ByteSize
  · rw [if_pos hb]
    exact .tooLarge hs hb
  rw [if_neg hb]
  by_cases hr : l.toHost.hasReceiver = true
  · rw [if_pos hr]
    exact .sent hs (Nat.le_of_not_lt hb)
  · rw [if_neg hr]
    exact .unread hs (Bool.eq_false_iff.mpr hr)

theorem Flushes.ok_cases {o o' : Outbox} {l l' : Link} {batch : Batch} {flushed : Option Flushed}
    (h : o.Flushes l batch (.ok (flushed, o', l'))) :
    o.skips batch = true ∧ flushed = none ∧ o' = o ∧ l' = l ∨
      o.skips batch = false ∧ batch.text.utf8ByteSize ≤ o.max ∧
        flushed = some
          ⟨batch.seq, batch.ops.length, batch.queries.length, batch.text.utf8ByteSize⟩ ∧
        o' = { o with next := o.next + 1 } ∧
        l'.toHost.frames = l.toHost.frames ++ [batch.text] := by
  cases h with
  | skipped hs => exact .inl ⟨hs, rfl, rfl, rfl⟩
  | sent hs hb => exact .inr ⟨hs, hb, rfl, rfl, (List.append_assoc ..).symm⟩

structure Mail where
  link : Link
  ops : List Operation
  queries : List Request

/-- Mail that is tried one after another, with the batches that get through and the outbox that is
left. -/
def post (o : Outbox) : List Mail → List Batch × Outbox
  | [] => ([], o)
  | m :: ms =>
    match o.flush m.link m.ops m.queries with
    | .ok (some _, o', _) =>
      let (sent, o'') := o'.post ms
      (⟨o.next, m.ops, m.queries⟩ :: sent, o'')
    | .ok (none, o', _) => o'.post ms
    | .error _ => o.post ms

/-- However many batches fail in between, those that get through are numbered without a gap. -/
theorem post_numbered (o : Outbox) (ms : List Mail) :
    (o.post ms).1.map (·.seq) = List.range' o.next (o.post ms).1.length ∧
      (o.post ms).2 = { o with next := o.next + (o.post ms).1.length } ∧
      ∀ batch ∈ (o.post ms).1, batch.text.utf8ByteSize ≤ o.max := by
  induction ms generalizing o with
  | nil => exact ⟨rfl, rfl, fun _ hb => absurd hb List.not_mem_nil⟩
  | cons m ms ih =>
    have hf := o.flush_cases m.link m.ops m.queries
    rw [post]
    generalize o.flush m.link m.ops m.queries = result at hf
    cases hf with
    | skipped hs => exact ih o
    | tooLarge hs hb => exact ih o
    | unread hs hr => exact ih o
    | sent hs hb =>
      obtain ⟨hn, ho, hm⟩ := ih { o with next := o.next + 1 }
      refine ⟨?_, ?_, List.forall_mem_cons.mpr ⟨hb, hm⟩⟩
      · rw [List.map_cons, hn, List.length_cons, List.range'_succ]
      · rw [ho, List.length_cons, Nat.add_assoc, Nat.add_comm 1]

end Outbox

namespace Turn

theorem flush_error {t : Turn κ σ} {f : Failure} (hf : t.flush.1 = .error f) :
    t.flush.2 = t.told ∧ f.isFatal = true := by
  have hc := t.session.outbox.flush_cases t.session.link t.batch.ops t.batch.queries
  rw [flush_eq] at hf ⊢
  generalize t.session.outbox.flush t.session.link t.batch.ops t.batch.queries = result at *
  cases hc <;> cases hf <;> exact ⟨rfl, rfl⟩

theorem flush_cases {t : Turn κ σ} {report : Report} (hk : t.flush.1 = .ok report) :
    t.session.outbox.Flushes t.session.link t.batch
      (.ok (report.flushed, t.flush.2.outbox, t.flush.2.link)) := by
  have hc := t.session.outbox.flush_cases t.session.link t.batch.ops t.batch.queries
  rw [flush_eq] at hk ⊢
  generalize t.session.outbox.flush t.session.link t.batch.ops t.batch.queries = result at *
  cases hc <;> cases hk
  · exact .skipped ‹_›
  · exact .sent ‹_› ‹_›

end Turn

theorem Happening.sent?_of_not_flush {x : Happening κ} (hx : x.isFlush = false) :
    x.sent? = none := by
  cases x with
  | flush => cases hx
  | _ => rfl

theorem Happening.sent?_ok (w : World κ) (batch : Batch) (flushed : Option Flushed) :
    (flush w batch (.ok flushed)).sent? = flushed.map fun _ => batch := by
  cases flushed <;> rfl

theorem Stats.count_told (s : Stats) (r : Report) :
    (s.count r).batches = s.batches + r.flushed.toList.length ∧
      (s.count r).ops = s.ops + (r.flushed.map (·.ops)).getD 0 := by
  rw [count, foldl_countDrop]
  exact ⟨rfl, rfl⟩

theorem History.sent_append (h h' : History κ) : sent (h ++ h') = h.sent ++ h'.sent :=
  List.filterMap_append

namespace Session

/-- The host is told nothing in between, and nothing is counted. -/
structure Untold (s u : Session κ σ) : Prop where
  frames : u.link.toHost.frames = s.link.toHost.frames
  outbox : u.outbox = s.outbox
  stats : u.stats = s.stats

section
variable {b : Behaviour κ σ} {dt : Binary64} {s u v : Session κ σ}

theorem Untold.trans (hu : s.Untold u) (hv : u.Untold v) : s.Untold v :=
  ⟨hv.frames.trans hu.frames, hv.outbox.trans hu.outbox, hv.stats.trans hu.stats⟩

theorem told_untold (t : Turn κ σ) : t.session.Untold t.told := ⟨rfl, rfl, rfl⟩

theorem stop_untold (s : Session κ σ) (text : String) (f : Failure) :
    s.Untold { s.remark .error text with failure := some f } := ⟨rfl, rfl, rfl⟩

theorem tick_result (hf : s.failure = none) : (s.tick b dt).1 = (s.step b dt).1 := by
  rw [tick, hf]
  rcases s.step b dt with ⟨f | r, u⟩ <;> rfl

theorem tick_of_error (hf : s.failure = none) {f : Failure} (hk : (s.tick b dt).1 = .error f) :
    (s.tick b dt).2 = { (s.step b dt).2.remark .error s!"stopping: {f.message}" with
      failure := some f } := by
  rw [tick_result hf] at hk
  rw [tick, hf]
  rcases hr : s.step b dt with ⟨e | r, u⟩ <;> rw [hr] at hk <;> cases hk
  rfl

theorem tick_of_ok (hf : s.failure = none) {report : Report} (hk : (s.tick b dt).1 = .ok report) :
    (s.tick b dt).2 = { (s.step b dt).2 with stats := (s.step b dt).2.stats.count report } := by
  rw [tick_result hf] at hk
  rw [tick, hf]
  rcases hr : s.step b dt with ⟨e | r, u⟩ <;> rw [hr] at hk <;> cases hk
  rfl

theorem work_not_flush {x : Happening κ}
    (hx : x ∈ s.opening b ++ ((s.dispatched b).expire b).updateDeeds b dt) : x.isFlush = false := by
  obtain hx | hx := List.mem_append.mp hx
  · obtain hx | hx | hx := mem_opening hx <;> cases x <;> first | rfl | cases hx
  · have hx := Turn.updateDeeds_inUpdate hx
    cases x <;> first | rfl | cases hx

theorem stepDeeds_not_flush
    (hd : (Turn.begin s).receiveAll.session.link.toScene.isDry = true) {x : Happening κ}
    (hx : x ∈ s.stepDeeds b dt) : x.isFlush = false := by
  rw [stepDeeds_dry b dt hd] at hx
  obtain hx | hx := List.mem_append.mp hx
  · have hx := intake_inIntake hx
    cases x <;> first | rfl | cases hx
  · rw [List.mem_singleton.mp hx]
    rfl

theorem deeds_sent (hf : s.failure = none)
    (hd : ¬ (Turn.begin s).receiveAll.session.link.toScene.isDry = true) :
    (s.deeds b (.tick dt)).sent = (s.worked b dt).telling.sent?.toList := by
  rw [deeds_opening hf hd, History.sent, filterMap_concat,
    List.filterMap_eq_nil_iff.mpr fun x hx => Happening.sent?_of_not_flush (work_not_flush hx),
    List.nil_append]

theorem worked_untold (b : Behaviour κ σ) (dt : Binary64) (s : Session κ σ) :
    s.Untold (s.worked b dt).session where
  frames := congrArg (fun d => d.link.toHost.frames) (worked_backdrop b dt s)
  outbox := congrArg Backdrop.outbox (worked_backdrop b dt s)
  stats := congrArg Backdrop.stats (worked_backdrop b dt s)

theorem worked_batch (b : Behaviour κ σ) (dt : Binary64) (s : Session κ σ) :
    let w := (s.worked b dt).world
    (s.worked b dt).batch =
      ⟨s.outbox.next, (s.replica.sync w.changes w.store).1, w.queries.outgoing⟩ := by
  have ho : (s.worked b dt).session.outbox = s.outbox := (worked_untold b dt s).outbox
  have hr : (s.worked b dt).session.replica = s.replica :=
    congrArg Backdrop.replica (worked_backdrop b dt s)
  rw [Turn.batch, ho, hr]

theorem receiveAll_untold (s : Session κ σ) : s.Untold (Turn.begin s).receiveAll.session :=
  have hb := Turn.receiveFrames_backdrop s.opened s.link.toScene.waiting
  { frames := congrArg (fun d => d.link.toHost.frames) hb
    outbox := congrArg Backdrop.outbox hb
    stats := congrArg Backdrop.stats hb }

theorem tick_untold {f : Failure} (hk : (s.tick b dt).1 = .error f) :
    s.Untold (s.tick b dt).2 ∧ f.isFatal = true ∧ (s.tick b dt).2.isFailed = true ∧
      (s.deeds b (.tick dt)).sent = [] := by
  cases hf : s.failure with
  | some e =>
    have hn : s.isFailed = true := congrArg Option.isSome hf
    rw [tick_failed hn, deeds, if_pos hn]
    rw [tick, hf] at hk
    cases hk
    exact ⟨⟨rfl, rfl, rfl⟩, rfl, hn, rfl⟩
  | none =>
    rw [tick_of_error hf hk]
    rw [tick_result hf] at hk
    by_cases hd : (Turn.begin s).receiveAll.session.link.toScene.isDry = true
    · rw [step_dry b dt hd] at hk ⊢
      cases hk
      refine ⟨(receiveAll_untold s).trans (stop_untold ..), rfl, rfl, ?_⟩
      rw [deeds, if_neg (by simp [isFailed, hf])]
      exact List.filterMap_eq_nil_iff.mpr fun x hx =>
        Happening.sent?_of_not_flush (stepDeeds_not_flush hd hx)
    · rw [step_wet b dt hd] at hk ⊢
      obtain ⟨ht, hm⟩ := Turn.flush_error hk
      rw [ht, deeds_sent hf hd, Turn.telling, hk]
      exact ⟨((worked_untold b dt s).trans (told_untold _)).trans (stop_untold ..), hm, rfl, rfl⟩

theorem tick_told {report : Report} (hk : (s.tick b dt).1 = .ok report) :
    let batch := (s.worked b dt).batch
    s.outbox.Flushes (s.worked b dt).session.link batch
      (.ok (report.flushed, (s.tick b dt).2.outbox, (s.tick b dt).2.link)) ∧
    (s.tick b dt).2.stats = s.stats.count report ∧
    (s.deeds b (.tick dt)).sent = (report.flushed.map fun _ => batch).toList := by
  intro batch
  obtain ⟨hf, hs⟩ := tick_isOk (isOk_of_tick hk)
  obtain ⟨hw, _⟩ := tick_flush hk
  have hc := Turn.flush_cases hw
  rw [(worked_untold b dt s).outbox] at hc
  have hu : (s.tick b dt).2 = { (s.worked b dt).flush.2 with stats := s.stats.count report } := by
    rw [tick_of_ok hf hk, step_stats, step_isOk hs]
  rw [deeds_sent hf (not_dry hs), Turn.telling, hw]
  simp only [hu]
  exact ⟨hc, trivial, congrArg Option.toList (Happening.sent?_ok ..)⟩

end

/-- What has gone out is numbered from 1 and not too long, and it is what is counted. -/
structure Numbered (config : Config) (s : Session κ σ) (sent : List Batch) : Prop where
  max : s.outbox.max = config.maxMessageSize.bytes
  sendEmpty : s.outbox.sendEmpty = config.sendEmptyBatches
  next : s.outbox.next = sent.length + 1
  frames : s.link.toHost.frames = sent.map Batch.text
  seqs : sent.map (·.seq) = List.range' 1 sent.length
  short : ∀ batch ∈ sent, batch.text.utf8ByteSize ≤ config.maxMessageSize.bytes
  batches : s.stats.batches = sent.length
  ops : s.stats.ops = (sent.flatMap (·.ops)).length

namespace Numbered

variable {config : Config} {s u : Session κ σ} {sent : List Batch}

theorem start (config : Config) (types : Registry) (memory : σ) :
    (start config ({ types } : World κ) memory).Numbered config [] :=
  ⟨rfl, rfl, rfl, rfl, rfl, fun _ hb => absurd hb List.not_mem_nil, rfl, rfl⟩

theorem untold (hs : s.Numbered config sent) (hl : u.link.toHost.frames = s.link.toHost.frames)
    (ho : u.outbox = s.outbox) (hb : u.stats.batches = s.stats.batches)
    (hn : u.stats.ops = s.stats.ops) : u.Numbered config sent where
  max := ho ▸ hs.max
  sendEmpty := ho ▸ hs.sendEmpty
  next := ho ▸ hs.next
  frames := hl.trans hs.frames
  seqs := hs.seqs
  short := hs.short
  batches := hb.trans hs.batches
  ops := hn.trans hs.ops

theorem told (hs : s.Numbered config sent) {batch : Batch} (hq : batch.seq = s.outbox.next)
    (hz : batch.text.utf8ByteSize ≤ s.outbox.max)
    (hl : u.link.toHost.frames = s.link.toHost.frames ++ [batch.text])
    (ho : u.outbox = { s.outbox with next := s.outbox.next + 1 })
    (hb : u.stats.batches = s.stats.batches + 1)
    (hn : u.stats.ops = s.stats.ops + batch.ops.length) :
    u.Numbered config (sent ++ [batch]) where
  max := ho ▸ hs.max
  sendEmpty := ho ▸ hs.sendEmpty
  next := by rw [ho, hs.next, List.length_append, List.length_singleton]
  frames := by rw [hl, hs.frames, List.map_append, List.map_singleton]
  seqs := by
    rw [List.map_append, List.map_singleton, hs.seqs, hq, hs.next, List.length_append,
      List.length_singleton, List.range'_1_concat, Nat.add_comm 1]
  short x hx := by
    obtain hx | hx := List.mem_append.mp hx
    · exact hs.short x hx
    · rw [List.mem_singleton.mp hx, ← hs.max]
      exact hz
  batches := by rw [hb, hs.batches, List.length_append, List.length_singleton]
  ops := by
    rw [hn, hs.ops, List.flatMap_append, List.length_append, List.flatMap_singleton]

theorem tick (hs : s.Numbered config sent) (b : Behaviour κ σ) (dt : Binary64) :
    (s.tick b dt).2.Numbered config (sent ++ (s.deeds b (.tick dt)).sent) := by
  cases hk : (s.tick b dt).1 with
  | error f =>
    obtain ⟨hu, _, _, hn⟩ := tick_untold hk
    rw [hn, List.append_nil]
    exact hs.untold hu.frames hu.outbox (congrArg Stats.batches hu.stats)
      (congrArg Stats.ops hu.stats)
  | ok report =>
    obtain ⟨hc, ht, hd⟩ := tick_told hk
    obtain ⟨hbatches, hops⟩ := s.stats.count_told report
    rw [← ht] at hbatches hops
    have hl := (worked_untold b dt s).frames
    have hq : (s.worked b dt).batch.seq = s.outbox.next :=
      congrArg Outbox.next (worked_untold b dt s).outbox
    generalize (s.worked b dt).batch = batch at hc hd hq
    rw [hd]
    obtain ⟨_, hf, ho, hl'⟩ | ⟨_, hz, hf, ho, hl'⟩ := hc.ok_cases
    · rw [hf] at hbatches hops
      rw [hf, Option.map_none, Option.toList, List.append_nil]
      exact hs.untold ((congrArg (·.toHost.frames) hl').trans hl) ho hbatches hops
    · rw [hf] at hbatches hops
      rw [hf, Option.map_some, Option.toList]
      exact hs.told hq hz (hl'.trans (congrArg (· ++ _) hl)) ho hbatches hops

theorem apply (hs : s.Numbered config sent) (b : Behaviour κ σ) (m : Move κ σ) :
    (s.apply b m).Numbered config (sent ++ (s.deeds b m).sent) := by
  obtain ⟨a, rfl⟩ | ⟨dt, rfl⟩ | ⟨hd, memory, journal, paused, link, he, hl, _⟩ :=
    apply_cases b s m
  · exact (List.append_nil sent).symm ▸ hs.untold rfl rfl rfl rfl
  · exact hs.tick b dt
  · rw [hd, he]
    exact (List.append_nil sent).symm ▸ hs.untold hl rfl rfl rfl

theorem after (hs : s.Numbered config sent) (b : Behaviour κ σ) (ms : List (Move κ σ)) :
    (s.after b ms).Numbered config (sent ++ (s.history b ms).sent) := by
  induction ms generalizing s sent with
  | nil => exact (List.append_nil sent).symm ▸ hs
  | cons m ms ih =>
    rw [history, History.sent_append, ← List.append_assoc]
    exact ih (hs.apply b m)

end Numbered

/-- What the host has been sent is numbered from 1 and not too long, and it is what is counted. A
tick that succeeds sends the changes and questions that it finds at its end under the next number,
unless there is nothing to send, and one that fails sends nothing and uses up no number. Nor does a
flush that fails, so that the one after it takes the number. -/
theorem batches_are_numbered (b : Behaviour κ σ) (config : Config) (types : Registry) (memory : σ)
    (moves : List (Move κ σ)) :
    let s := start config ({ types } : World κ) memory
    let u := s.after b moves
    let sent := (s.history b moves).sent
    u.Numbered config sent ∧
    (∀ dt report, (u.tick b dt).1 = .ok report →
      let w := (u.worked b dt).world
      let batch : Batch :=
        ⟨sent.length + 1, (u.replica.sync w.changes w.store).1, w.queries.outgoing⟩
      let frames := (u.tick b dt).2.link.toHost.frames
      (batch.isEmpty = true ∧ config.sendEmptyBatches = false →
        report.flushed = none ∧ frames = u.link.toHost.frames) ∧
      (batch.isEmpty = false ∨ config.sendEmptyBatches = true →
        report.flushed = some ⟨sent.length + 1, batch.ops.length, batch.queries.length,
          batch.text.utf8ByteSize⟩ ∧ frames = u.link.toHost.frames ++ [batch.text])) ∧
    (∀ dt f, (u.tick b dt).1 = .error f → u.Untold (u.tick b dt).2) ∧
    ∀ o : Outbox,
      (∀ l ops queries, o.Flushes l ⟨o.next, ops, queries⟩ (o.flush l ops queries)) ∧
      ∀ ms, (o.post ms).1.map (·.seq) = List.range' o.next (o.post ms).1.length ∧
        (o.post ms).2.next = o.next + (o.post ms).1.length := by
  intro s u sent
  have hu : u.Numbered config sent := (Numbered.start config types memory).after b moves
  refine ⟨hu, fun dt report hk => ?_, fun dt f hk => (tick_untold hk).1, fun o =>
    ⟨o.flush_cases, fun ms => ?_⟩⟩
  · intro w batch frames
    obtain ⟨hc, _, _⟩ := tick_told hk
    have hb : (u.worked b dt).batch = batch := by rw [worked_batch, hu.next]
    have hs : u.outbox.skips batch = (batch.isEmpty && !config.sendEmptyBatches) := by
      rw [Outbox.skips, hu.sendEmpty]
    rw [hb] at hc
    have hl := (worked_untold b dt u).frames
    obtain ⟨hn, hf, _, hl'⟩ | ⟨hn, _, hf, _, hl'⟩ := hc.ok_cases
    · rw [hs, Bool.and_eq_true, Bool.not_eq_true'] at hn
      refine ⟨fun _ => ⟨hf, (congrArg (·.toHost.frames) hl').trans hl⟩, fun h => ?_⟩
      simp [hn] at h
    · rw [hs] at hn
      refine ⟨fun h => ?_, fun _ => ⟨hf, hl'.trans (congrArg (· ++ _) hl)⟩⟩
      simp [h] at hn
  · obtain ⟨hn, ho, _⟩ := o.post_numbered ms
    exact ⟨hn, congrArg Outbox.next ho⟩

/-- The second of three ticks has nothing to tell, and the third takes number 2. An outbox that
meets a host that is gone in between goes on with the number that it did not use. -/
theorem batches_are_numbered_quiet :
    let s := start {} ({ types := ∅ } : World Unit) ()
    let ms : List (Move Unit Unit) := [.act .create, .tick ⟨0⟩, .tick ⟨0⟩, .act .create]
    let u := s.after .idle ms
    let gone : Link := { toHost := { hasReceiver := false } }
    ∃ report flushed, (u.tick .idle ⟨0⟩).1 = .ok report ∧ report.flushed = some flushed ∧
      flushed.seq = 2 ∧ u.stats.ticks = 2 ∧ u.stats.batches = 1 ∧
      ((u.outbox.post [⟨gone, [.createEntity ⟨9⟩], []⟩, ⟨{}, [.removeEntity ⟨9⟩], []⟩]).1.map
        (·.seq)) = [2] := by
  intro s ms u gone
  obtain ⟨hu, hk, _, ho⟩ := batches_are_numbered .idle {} ∅ () ms
  obtain ⟨report, hr⟩ := exists_report .idle ⟨0⟩ u (by decide +kernel)
  obtain ⟨_, ht⟩ := hk ⟨0⟩ report hr
  obtain ⟨hf, _⟩ := ht (.inl (by decide +kernel))
  refine ⟨report, _, hr, hf, ?_, ?_, ?_, ?_⟩
  · decide +kernel
  · decide +kernel
  · rw [hu.batches]
    decide +kernel
  · rw [((ho u.outbox).2 _).1]
    decide +kernel

end Session

end Diorama
