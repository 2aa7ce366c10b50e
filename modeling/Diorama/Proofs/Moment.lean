import Diorama.Proofs.History

namespace Diorama

variable {κ : Type}

inductive Phase where
  | rest
  | intake
  | work
  | over
  deriving DecidableEq

structure Moment (κ : Type) where
  world : World κ
  replica : Replica := {}
  inbox : List Arrival := []
  /-- Queries that have been taken out because their time is up, and whose code is still to be
  called. -/
  late : List (RequestId × κ) := []
  phase : Phase := .rest
  frames : List String := []

namespace Moment

/-- What the host is to be told. -/
def batch (m : Moment κ) (seq : Nat) : Batch :=
  ⟨seq, (m.replica.sync m.world.changes m.world.store).1, m.world.queries.outgoing⟩

def fresh (types : Registry) : Moment κ := { world := { types } }

inductive Step : Moment κ → Happening κ → Moment κ → Prop
  | act {m : Moment κ} (a : Action κ) (hp : m.phase ≠ .intake) :
      Step m (.act a (m.world.perform a).1) { m with world := (m.world.perform a).2 }
  | begin {m : Moment κ} (hp : m.phase = .rest) :
      Step m .begin { m with world.tick := m.world.tick + 1, phase := .intake }
  | hear {m : Moment κ} (frame : String) (hp : m.phase = .intake) :
      Step m (.hear frame)
        { m with inbox := m.inbox ++ (Arrival.ofFrame m.world frame).toOption.toList }
  | lose {m : Moment κ} (hp : m.phase = .intake) :
      Step m .lose { m with inbox := [], phase := .over }
  | gather {m : Moment κ} (ms : Members (Subscription κ)) (hp : m.phase = .intake) :
      Step m .gather { m with world := (Dispatch.gather m.world ms).2, phase := .work }
  | deliver {m : Moment κ} {e : HostEvent} {as : List Arrival} (hp : m.phase = .work)
      (hi : m.inbox = .event e :: as) (ha : ∀ x ∈ e.entity, m.world.isAlive x = true) :
      Step m (.deliver e) { m with inbox := as }
  | notify {m : Moment κ} (h : Handle (Subscription κ)) (e : HostEvent) (hp : m.phase = .work) :
      Step m (.notify h e) m
  | dropEvent {m : Moment κ} {e : HostEvent} {as : List Arrival} (x : Entity)
      (hp : m.phase = .work) (hi : m.inbox = .event e :: as) (ha : m.world.isAlive x = false) :
      Step m (.drop (.deadEntity e.name x)) { m with inbox := as }
  | dropResponse {m : Moment κ} {id : RequestId} {o : Outcome} {as : List Arrival}
      (hp : m.phase = .work) (hi : m.inbox = .response id o :: as)
      (hq : m.world.queries.isPending id = false) :
      Step m (.drop (.unmatched id)) { m with inbox := as }
  | answer {m : Moment κ} {id : RequestId} {code : κ} {o : Outcome} {as : List Arrival}
      (hp : m.phase = .work) (hi : m.inbox = .response id o :: as)
      (hq : (m.world.queries.resolve id).1 = some code) :
      Step m (.answer id code o)
        { m with inbox := as, world.queries := (m.world.queries.resolve id).2 }
  | lapse {m : Moment κ} (timeout : Nat) (hp : m.phase = .work) (hi : m.inbox = [])
      (hl : m.late = []) :
      Step m .lapse
        { m with
          late := (m.world.queries.expire m.world.tick timeout).1
          world.queries := (m.world.queries.expire m.world.tick timeout).2 }
  | timeOut {m : Moment κ} {id : RequestId} {code : κ} {late : List (RequestId × κ)}
      (hp : m.phase = .work) (hl : m.late = (id, code) :: late) :
      Step m (.answer id code .timedOut) { m with late }
  | convene {m : Moment κ} (ms : Members (System κ)) (hp : m.phase = .work) :
      Step m .convene
        { m with world.systems := (m.world.systems.call Schedule.place ms).2 }
  | update {m : Moment κ} (h : Handle (System κ)) (hp : m.phase = .work) : Step m (.update h) m
  | flush {m : Moment κ} (seq : Nat) (result : Except Failure (Option Flushed))
      (hp : m.phase = .work) (hi : m.inbox = []) (hl : m.late = [])
      (hr : result = .ok none → (m.batch seq).isEmpty = true) :
      Step m (.flush m.world (m.batch seq) result)
        { m with
          world.changes := {}
          world.queries := (m.world.queries.takeOutgoing m.world.tick).2
          replica := (m.replica.sync m.world.changes m.world.store).2
          phase := if result.isOk then .rest else .over
          frames := m.frames ++
            ((Happening.flush m.world (m.batch seq) result).sent?.map Batch.text).toList }

inductive Trail (m : Moment κ) : History κ → Moment κ → Prop
  | nil : Trail m [] m
  | snoc {h : History κ} {m₁ m₂ : Moment κ} {x : Happening κ} (hm : Trail m h m₁)
      (hx : Step m₁ x m₂) : Trail m (h ++ [x]) m₂

namespace Trail

variable {m m₁ m₂ : Moment κ} {g h : History κ} {x : Happening κ}

theorem single (hx : Step m x m₁) : Trail m [x] m₁ := .snoc .nil hx

theorem trans (hg : Trail m g m₁) (hh : Trail m₁ h m₂) : Trail m (g ++ h) m₂ := by
  induction hh with
  | nil => simpa using hg
  | snoc _ hx ih =>
    rw [← List.append_assoc]
    exact .snoc ih hx

theorem cons (hx : Step m x m₁) (hh : Trail m₁ h m₂) : Trail m (x :: h) m₂ :=
  (single hx).trans hh

/-- A run passes through every moment of its history. -/
theorem split (hh : Trail m h m₂) : ∀ g g', h = g ++ g' → ∃ m₁, Trail m g m₁ ∧ Trail m₁ g' m₂ := by
  induction hh with
  | nil =>
    intro g g' he
    obtain ⟨rfl, rfl⟩ := List.append_eq_nil_iff.mp he.symm
    exact ⟨m, .nil, .nil⟩
  | snoc hm hx ih =>
    intro g g' he
    rcases List.eq_nil_or_concat g' with rfl | ⟨g'', y, rfl⟩
    · rw [List.append_nil] at he
      exact ⟨_, he ▸ .snoc hm hx, .nil⟩
    · rw [List.concat_eq_append, ← List.append_assoc] at he
      obtain ⟨he, hy⟩ := List.append_inj' he rfl
      obtain ⟨m₁, hg, hg'⟩ := ih g g'' he
      obtain rfl := List.singleton_inj.mp hy
      exact ⟨m₁, hg, by simpa using Trail.snoc hg' hx⟩

theorem last (hh : Trail m (h ++ [x]) m₂) : ∃ m₁, Trail m h m₁ ∧ Step m₁ x m₂ := by
  generalize he : h ++ [x] = g at hh
  cases hh with
  | nil => simp at he
  | snoc hm hx =>
    obtain ⟨rfl, hy⟩ := List.append_inj' he rfl
    obtain rfl := List.singleton_inj.mp hy
    exact ⟨_, hm, hx⟩

theorem split_at (hh : Trail m (g ++ x :: h) m₂) :
    ∃ m₁ m₁', Trail m g m₁ ∧ Step m₁ x m₁' ∧ Trail m₁' h m₂ := by
  obtain ⟨m₁', hg, hh⟩ := hh.split (g ++ [x]) h (by simp)
  obtain ⟨m₁, hg, hx⟩ := hg.last
  exact ⟨m₁, m₁', hg, hx, hh⟩

end Trail

end Moment

end Diorama
