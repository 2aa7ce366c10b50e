import Diorama.Proofs.Audience

namespace Diorama

open Moment

variable {κ σ : Type}

/-- What can happen while an event is delivered: its subscribers are called, and act. -/
def Happening.Serves (e : HostEvent) (x : Happening κ) : Prop :=
  (∃ a reply, x = .act a reply) ∨ ∃ m, x = .notify m e

theorem Happening.notified?_eq_some {x : Happening κ}
    {p : Handle (Subscription κ) × HostEvent} (hx : x.notified? = some p) :
    x = .notify p.1 p.2 := by
  cases x with
  | notify m e => rw [← Option.some.inj hx]
  | _ => cases hx

namespace History

def Attended (h : History κ) : Prop :=
  ∀ (g g' : History κ) m e, h = g ++ .notify m e :: g' →
    ∃ g₁ g₂ : History κ, g = g₁ ++ .deliver e :: g₂ ∧ ∀ x ∈ g₂, x.Serves e

namespace Attended

variable {h h' : History κ} {e : HostEvent}

theorem silent (hn : ∀ x ∈ h, x.notified? = none) : h.Attended := by
  rintro g g' m e rfl
  cases hn _ (List.mem_append_right _ (.head _))

theorem quiet (hq : ∀ x ∈ h, x.isQuiet = true) : h.Attended := by
  refine .silent fun x hx => ?_
  have hx := hq x hx
  simp only [Happening.isQuiet, Bool.and_eq_true, Option.isNone_iff_eq_none] at hx
  exact hx.1.2

theorem delivery (hs : ∀ x ∈ h, x.Serves e) : Attended (.deliver e :: h) := by
  intro g g' m e' he
  cases g with
  | nil => cases he
  | cons y g =>
    obtain ⟨rfl, rfl⟩ := List.cons.inj he
    obtain ⟨a, reply, hx⟩ | ⟨m', hx⟩ := hs _ (List.mem_append_right _ (.head _))
    · cases hx
    · cases hx
      exact ⟨[], g, rfl, fun x hx => hs x (List.mem_append_left _ hx)⟩

theorem append (hh : h.Attended) (hh' : h'.Attended) : Attended (h ++ h') := by
  intro g g' m e he
  -- The delivery to which a call belongs is on the same side as the call.
  obtain ⟨k, rfl, hk⟩ | ⟨k, rfl, hk⟩ := List.append_eq_append_iff.mp he
  · obtain ⟨g₁, g₂, rfl, hs⟩ := hh' k g' m e hk
    exact ⟨h ++ g₁, g₂, (List.append_assoc ..).symm, hs⟩
  · cases k with
    | nil =>
      obtain ⟨g₁, g₂, he, hs⟩ := hh' [] g' m e hk.symm
      cases g₁ <;> cases he
    | cons x k =>
      obtain ⟨rfl, _⟩ := List.cons.inj hk
      exact hh g k m e rfl

end Attended

theorem split_notified {h : History κ} {n : Nat} {p : Handle (Subscription κ) × HostEvent → Bool}
    (hn : (h[n]?.bind Happening.notified?).any p = true) :
    ∃ m e, h = h.take n ++ .notify m e :: h.drop (n + 1) ∧ p (m, e) = true := by
  obtain ⟨⟨m, e⟩, hx, hp⟩ := (Option.any_eq_true ..).mp hn
  obtain ⟨x, hx, hm⟩ := Option.bind_eq_some_iff.mp hx
  obtain ⟨hl, hx⟩ := List.getElem?_eq_some_iff.mp hx
  refine ⟨m, e, ?_, hp⟩
  rw [← Happening.notified?_eq_some hm, ← hx, ← List.drop_eq_getElem_cons hl,
    List.take_append_drop]

theorem isLiving_append {g₁ g₂ : History κ} {e : HostEvent} {x : Entity}
    (hx : g₁.isLiving x = true) :
    isLiving (g₁ ++ .deliver e :: g₂) x = true ↔ x ∉ g₂.destroyed := by
  obtain ⟨hc, hd⟩ := of_decide_eq_true hx
  have he : destroyed (g₁ ++ .deliver e :: g₂) = g₁.destroyed ++ g₂.destroyed :=
    List.filterMap_append
  have hc' : x ∈ created (g₁ ++ .deliver e :: g₂) := by
    rw [created, List.filterMap_append]
    exact List.mem_append_left _ hc
  simp [isLiving, hc', he, hd]

end History

namespace Turn

variable (b : Behaviour κ σ) (t : Turn κ σ)

theorem handleDeeds_attended (a : Arrival) : (t.handleDeeds b a).Attended := by
  cases a with
  | event e =>
    simp only [handleDeeds]
    cases e.entity.filter fun x => !t.world.isAlive x with
    | some x => exact .silent fun y hy => List.mem_singleton.mp hy ▸ rfl
    | none => exact .delivery fun x hx => Dispatch.mem_deeds hx
  | response id o => exact .quiet (response_quiet b t id o)

theorem handleAll_attended (as : List Arrival) :
    History.Attended (t.along (handle b) (handleDeeds b) as) := by
  induction as generalizing t with
  | nil => exact .silent fun x hx => absurd hx List.not_mem_nil
  | cons a as ih => exact (handleDeeds_attended b t a).append (ih (t.handle b a))

end Turn

namespace Session

variable (b : Behaviour κ σ) (s : Session κ σ)

theorem deeds_attended (m : Move κ σ) : (s.deeds b m).Attended := by
  cases m with
  | act a => exact .quiet fun x hx => List.mem_singleton.mp hx ▸ rfl
  | tick dt =>
    obtain hq | ⟨hf, hd⟩ := quiet_or_open b dt s
    · exact .quiet fun x hx => (hq x hx).2
    · have hi : History.Attended (s.intake : History κ) := .quiet fun x hx =>
        Happening.quiet_of_part (.inl (intake_inIntake hx))
      have hg : History.Attended [(.gather : Happening κ)] := .quiet fun x hx =>
        List.mem_singleton.mp hx ▸ rfl
      have hc : (s.closing b dt).Attended := .quiet fun x hx =>
        Happening.quiet_of_part (.inr (mem_closing hx))
      rw [deeds_gather hf hd]
      exact hi.append (hg.append ((Turn.handleAll_attended b _ _).append hc))
  | _ => exact .silent fun x hx => absurd hx List.not_mem_nil

theorem history_attended (ms : List (Move κ σ)) : (s.history b ms).Attended := by
  induction ms generalizing s with
  | nil => exact .silent fun x hx => absurd hx List.not_mem_nil
  | cons m ms ih => exact (deeds_attended b s m).append (ih (s.apply b m))

/-- A subscriber is called for an event only while it is delivered. The entity of the event lives
when the delivery begins, and then it still lives at the call unless a subscriber that was called
before in this delivery has destroyed it. -/
theorem targets_live_at_delivery (config : Config) (types : Registry) (memory : σ)
    (moves : List (Move κ σ)) :
    let s := start config ({ types } : World κ) memory
    let h := s.history b moves
    (∀ x, (s.after b moves).world.isAlive x = h.isLiving x) ∧
    ∀ (g g' : History κ) m e, h = g ++ .notify m e :: g' →
      ∃ g₁ g₂ : History κ, g = g₁ ++ .deliver e :: g₂ ∧ (∀ x ∈ g₂, x.Serves e) ∧
        ∀ x ∈ e.entity, g₁.isLiving x = true ∧ (g.isLiving x = true ↔ x ∉ g₂.destroyed) := by
  intro s h
  have hh : Trail (.fresh types) h (s.after b moves).moment :=
    start_trail b config types memory moves
  refine ⟨hh.isAlive_eq, fun g g' m e he => ?_⟩
  obtain ⟨g₁, g₂, rfl, hs⟩ := history_attended b s moves g g' m e he
  refine ⟨g₁, g₂, rfl, hs, fun x hx => ?_⟩
  rw [he, List.append_assoc] at hh
  obtain ⟨m₁, m₂, hg, hd, _⟩ := hh.split_at
  have hl : g₁.isLiving x = true := by
    cases hd with
    | deliver hp hi ha => exact hg.isAlive_eq x ▸ ha x hx
  exact ⟨hl, History.isLiving_append hl⟩

theorem targets_live_at_delivery_first :
    let s := start {} ({ types := ∅ } : World (Option Entity)) ()
    let h := s.history .destroying [.act .create, .act (.subscribe ⟨"kill", none, some ⟨1⟩⟩),
      .act (.subscribe ⟨"kill", none, none⟩),
      .send "\x7b\"type\":\"event\",\"eventName\":\"kill\",\"entityId\":1\x7d", .tick ⟨0⟩]
    ∃ (g g' : History (Option Entity)) (m : Handle (Subscription (Option Entity))) (e : HostEvent),
      h = g ++ .notify m e :: g' ∧ m.number = 1 ∧ e.entity = some ⟨1⟩ ∧
        g.isLiving ⟨1⟩ = true := by
  intro s h
  obtain ⟨m, e, hs, hp⟩ := h.split_notified (n := 7)
    (p := fun p => p.1.number = 1 ∧ p.2.entity = some ⟨1⟩) (by decide +kernel)
  obtain ⟨hm, he⟩ := of_decide_eq_true hp
  obtain ⟨_, hl⟩ := targets_live_at_delivery .destroying {} ∅ () _
  obtain ⟨g₁, g₂, hg, _, hl⟩ := hl _ _ m e hs
  have hn : History.destroyed (h.take 7) = [] := by decide +kernel
  refine ⟨_, _, m, e, hs, hm, he, (hl ⟨1⟩ he).2.mpr fun hd => ?_⟩
  rw [hg, History.destroyed, List.filterMap_append] at hn
  have hd : ⟨1⟩ ∈ ([] : List Entity) := hn ▸ List.mem_append_right _ hd
  cases hd

/-- The second subscriber to an event learns of it though the first has destroyed its entity. -/
theorem target_destroyed_before_call :
    let s := start {} ({ types := ∅ } : World (Option Entity)) ()
    let h := s.history .destroying [.act .create, .act (.subscribe ⟨"kill", none, some ⟨1⟩⟩),
      .act (.subscribe ⟨"kill", none, none⟩),
      .send "\x7b\"type\":\"event\",\"eventName\":\"kill\",\"entityId\":1\x7d", .tick ⟨0⟩]
    ∃ (g g' : History (Option Entity)) (m : Handle (Subscription (Option Entity))) (e : HostEvent),
      h = g ++ .notify m e :: g' ∧ m.number = 2 ∧ e.entity = some ⟨1⟩ ∧
        g.isLiving ⟨1⟩ = false := by
  intro s h
  obtain ⟨m, e, hs, hp⟩ := h.split_notified (n := 9)
    (p := fun p => p.1.number = 2 ∧ p.2.entity = some ⟨1⟩) (by decide +kernel)
  obtain ⟨hm, he⟩ := of_decide_eq_true hp
  exact ⟨_, _, m, e, hs, hm, he, by decide +kernel⟩

end Session

end Diorama
