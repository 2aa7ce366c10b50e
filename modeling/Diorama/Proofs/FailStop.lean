import Diorama.Proofs.Numbering
import Diorama.Proofs.Refinement

namespace Diorama

variable {κ σ : Type}

namespace Session

variable {b : Behaviour κ σ} {dt : Binary64} {s u : Session κ σ} {f : Failure}

theorem exists_failure (b : Behaviour κ σ) (dt : Binary64) (s : Session κ σ)
    (hk : (s.tick b dt).1.isOk = false) : ∃ f, (s.tick b dt).1 = .error f := by
  rcases hr : s.tick b dt with ⟨f | report, u⟩
  · exact ⟨f, rfl⟩
  · rw [hr] at hk
    cases hk

theorem tick_failure (hf : s.failure = none) (hk : (s.tick b dt).1 = .error f) :
    (s.tick b dt).2.failure = some f := by
  rw [tick_of_error hf hk]

theorem tick_stopped (hf : s.failure = some f) (b : Behaviour κ σ) (dt : Binary64) :
    s.tick b dt = (.error (.link (.stopped f.message)), s) ∧ s.deeds b (.tick dt) = [] := by
  have hn : s.isFailed = true := congrArg Option.isSome hf
  rw [tick, hf, deeds, if_pos hn]
  exact ⟨rfl, rfl⟩

theorem apply_isFailed {m : Move κ σ} (hn : s.isFailed = false)
    (hf : (s.apply b m).isFailed = true) :
    ∃ dt, m = .tick dt ∧ (s.tick b dt).1.isOk = false := by
  obtain ⟨a, rfl⟩ | ⟨dt, rfl⟩ | ⟨_, memory, journal, paused, link, he, _⟩ := apply_cases b s m
  · exact absurd (hn.symm.trans hf) Bool.false_ne_true
  · refine ⟨dt, rfl, ?_⟩
    cases hk : (s.tick b dt).1 with
    | error f => rfl
    | ok report =>
      have hs : s.failure = none := Option.not_isSome_iff_eq_none.mp (Bool.eq_false_iff.mp hn)
      have ht : (s.apply b (.tick dt)).failure = s.failure := by
        rw [apply, tick_of_ok hs hk]
        exact step_failure b dt s
      rw [isFailed, ht] at hf
      exact absurd (hn.symm.trans hf) Bool.false_ne_true
  · rw [he] at hf
    exact absurd (hn.symm.trans hf) Bool.false_ne_true

theorem exists_failed_tick (hn : s.isFailed = false) {ms : List (Move κ σ)}
    (hf : (s.after b ms).isFailed = true) :
    ∃ ms₁ dt ms₂, ms = ms₁ ++ .tick dt :: ms₂ ∧
      ((s.after b ms₁).tick b dt).1.isOk = false := by
  induction ms generalizing s with
  | nil => exact absurd (hn.symm.trans hf) Bool.false_ne_true
  | cons m ms ih =>
    cases hm : (s.apply b m).isFailed with
    | true =>
      obtain ⟨dt, rfl, hk⟩ := apply_isFailed hn hm
      exact ⟨[], dt, ms, rfl, hk⟩
    | false =>
      obtain ⟨ms₁, dt, ms₂, rfl, hk⟩ := ih hm hf
      exact ⟨m :: ms₁, dt, ms₂, rfl, hk⟩

theorem isFailed_after {ms₁ ms₂ : List (Move κ σ)}
    (hk : ((s.after b ms₁).tick b dt).1.isOk = false) :
    (s.after b (ms₁ ++ .tick dt :: ms₂)).isFailed = true := by
  obtain ⟨f, hr⟩ := exists_failure b dt _ hk
  obtain ⟨_, _, hn, _⟩ := tick_untold hr
  obtain ⟨e, he⟩ := Option.isSome_iff_exists.mp hn
  rw [after_append]
  exact congrArg Option.isSome (after_failure b he ms₂)

/-- What no move changes of a session that has ended. -/
structure Rests (s u : Session κ σ) : Prop where
  untold : s.Untold u
  failure : u.failure = s.failure
  taken : u.link.toScene.taken = s.link.toScene.taken

theorem apply_taken (hn : s.isFailed = true) (b : Behaviour κ σ) (m : Move κ σ) :
    (s.apply b m).link.toScene.taken = s.link.toScene.taken := by
  cases m with
  | tick dt => rw [apply, tick_failed hn]
  | pause =>
    rw [apply, pause]
    split <;> rfl
  | resume =>
    rw [apply, resume]
    split <;> rfl
  | send frame =>
    rw [apply, Link.hostSend, Lane.send?]
    by_cases hr : s.link.toScene.hasReceiver = true
    · rw [if_pos hr]
    · rw [if_neg hr]
  | _ => rfl

theorem Rests.apply (hf : s.failure = some f) (b : Behaviour κ σ) (m : Move κ σ) :
    s.Rests (s.apply b m) ∧ ∀ x ∈ s.deeds b m, ∃ a reply, x = .act a reply := by
  have hn := (apply_failure b hf m).trans hf.symm
  have ht := apply_taken (congrArg Option.isSome hf) b m
  obtain ⟨a, rfl⟩ | ⟨dt, rfl⟩ | ⟨hd, memory, journal, paused, link, he, hl, _⟩ := apply_cases b s m
  · exact ⟨⟨⟨rfl, rfl, rfl⟩, hn, ht⟩, fun x hx => ⟨a, _, List.mem_singleton.mp hx⟩⟩
  · obtain ⟨hs, hd⟩ := tick_stopped hf b dt
    rw [Session.apply, hs, hd]
    exact ⟨⟨⟨rfl, rfl, rfl⟩, rfl, rfl⟩, fun x hx => absurd hx List.not_mem_nil⟩
  · rw [he] at hn ht ⊢
    rw [hd]
    exact ⟨⟨⟨hl, rfl, rfl⟩, hn, ht⟩, fun x hx => absurd hx List.not_mem_nil⟩

theorem Rests.after (hf : s.failure = some f) (b : Behaviour κ σ) (ms : List (Move κ σ)) :
    s.Rests (s.after b ms) ∧ ∀ x ∈ s.history b ms, ∃ a reply, x = .act a reply := by
  induction ms generalizing s with
  | nil => exact ⟨⟨⟨rfl, rfl, rfl⟩, rfl, rfl⟩, fun x hx => absurd hx List.not_mem_nil⟩
  | cons m ms ih =>
    obtain ⟨hm, hd⟩ := Rests.apply hf b m
    obtain ⟨hr, hh⟩ := ih (hm.failure.trans hf)
    exact ⟨⟨hm.untold.trans hr.untold, hr.failure.trans hm.failure, hr.taken.trans hm.taken⟩,
      fun x hx => (List.mem_append.mp hx).elim (hd x) (hh x)⟩

theorem made_against_sent {config : Config} {types : Registry} {memory : σ}
    {moves : List (Move κ σ)} {w : World κ} {batch : Batch}
    {result : Except Failure (Option Flushed)} :
    let s := start config ({ types } : World κ) memory
    let u := s.after b moves
    .flush w batch result ∈ u.deeds b (.tick dt) →
      ∃ c, Copy.follow {} ((s.history b moves).sent.flatMap (·.ops)) = some c ∧
        Agrees c u.replica ∧ batch.ops = (u.replica.sync w.changes w.store).1 := by
  intro s u hx
  have hn : ¬ u.isFailed = true := by
    intro hn
    rw [deeds, if_pos hn] at hx
    cases hx
  have hf : u.failure = none := Option.not_isSome_iff_eq_none.mp hn
  obtain ⟨c, hc, ha⟩ := (start_trail b config types memory moves).followed
  have hp : u.moment.phase ≠ .over := by simp [moment, hn]
  refine ⟨c, hc, (ha hp).agrees, ?_⟩
  by_cases hd : (Turn.begin u).receiveAll.session.link.toScene.isDry = true
  · rw [deeds, if_neg hn] at hx
    exact absurd (stepDeeds_not_flush hd hx) Bool.noConfusion
  · rw [deeds_opening hf hd] at hx
    obtain hx | hx := List.mem_append.mp hx
    · exact absurd (work_not_flush hx) Bool.noConfusion
    · have hx := List.mem_singleton.mp hx
      rw [Turn.telling] at hx
      obtain ⟨rfl, rfl, _⟩ := Happening.flush.inj hx
      rw [worked_batch]

/-- The first tick that fails is the end of a session: the host is told nothing of it, nothing is
counted, and no later tick does anything, whatever is done to the session. So a batch is always made
against what the host has been sent, though a tick that fails takes more than that as told. -/
theorem failure_is_final (b : Behaviour κ σ) (config : Config) (types : Registry) (memory : σ)
    (moves : List (Move κ σ)) :
    let s := start config ({ types } : World κ) memory
    let u := s.after b moves
    (∀ dt f, (u.tick b dt).1 = .error f → f.isFatal = true) ∧
    (u.isFailed = true ↔ ∃ ms dt ms', moves = ms ++ .tick dt :: ms' ∧
      ((s.after b ms).tick b dt).1.isOk = false) ∧
    (∀ dt f, u.isFailed = false → (u.tick b dt).1 = .error f → ∀ ms,
      let v := (u.tick b dt).2
      let x := v.after b ms
      u.Untold x ∧ x.isFailed = true ∧ x.link.toScene.taken = v.link.toScene.taken ∧
      (∀ y ∈ v.history b ms, ∃ a reply, y = .act a reply) ∧
      ∀ dt', x.tick b dt' = (.error (.link (.stopped f.message)), x) ∧
        x.deeds b (.tick dt') = []) ∧
    ∀ dt w batch result, .flush w batch result ∈ u.deeds b (.tick dt) →
      ∃ c, Copy.follow {} ((s.history b moves).sent.flatMap (·.ops)) = some c ∧
        Agrees c u.replica ∧ batch.ops = (u.replica.sync w.changes w.store).1 := by
  intro s u
  refine ⟨fun dt f hk => (tick_untold hk).2.1, ⟨exists_failed_tick rfl, ?_⟩, ?_,
    fun dt w batch result => made_against_sent⟩
  · rintro ⟨ms, dt, ms', hm, hk⟩
    rw [show u = s.after b (ms ++ .tick dt :: ms') from congrArg (s.after b) hm]
    exact isFailed_after hk
  · intro dt f hn hk ms v x
    have hf : u.failure = none := Option.not_isSome_iff_eq_none.mp (Bool.eq_false_iff.mp hn)
    have hv : v.failure = some f := tick_failure hf hk
    obtain ⟨hr, hh⟩ := Rests.after hv b ms
    have hx : x.failure = some f := hr.failure.trans hv
    exact ⟨(tick_untold hk).1.trans hr.untold, congrArg Option.isSome hx, hr.taken, hh,
      tick_stopped hx b⟩

/-- The host is gone before the second tick, which leaves its entity untold for good. -/
theorem failure_is_final_unread :
    let s := start {} ({ types := ∅ } : World Unit) ()
    let u := s.after .idle [.act .create, .tick ⟨0⟩, .ignore, .act .create]
    let x := (u.tick .idle ⟨0⟩).2.after .idle [.send "late", .act .create, .tick ⟨0⟩]
    (u.tick .idle ⟨0⟩).1 = .error (.link .hostGone) ∧ u.Untold x ∧ x.isFailed = true ∧
      (x.tick .idle ⟨0⟩).1 = .error (.link (.stopped (Failure.link .hostGone).message)) ∧
      x.link.toScene.waiting = ["late"] ∧ u.stats.batches = 1 := by
  intro s u x
  obtain ⟨f, hk⟩ := exists_failure .idle ⟨0⟩ u (by decide +kernel)
  have hn : u.isFailed = false := by decide +kernel
  obtain rfl : f = .link .hostGone := by
    have hf := tick_failure (Option.not_isSome_iff_eq_none.mp (Bool.eq_false_iff.mp hn)) hk
    have hv : (u.tick .idle ⟨0⟩).2.failure = some (.link .hostGone) := by decide +kernel
    exact Option.some.inj (hf.symm.trans hv)
  obtain ⟨_, _, hr, _⟩ := failure_is_final .idle {} ∅ ()
    [.act .create, .tick ⟨0⟩, .ignore, .act .create]
  obtain ⟨hu, hx, _, _, ht⟩ := hr ⟨0⟩ _ hn hk [.send "late", .act .create, .tick ⟨0⟩]
  refine ⟨hk, hu, hx, congrArg Prod.fst (ht ⟨0⟩).1, ?_, ?_⟩
  · decide +kernel
  · decide +kernel

end Session

end Diorama
