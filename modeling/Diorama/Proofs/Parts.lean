import Diorama.Proofs.Course

namespace Diorama

variable {κ σ α : Type}

namespace Happening

def inIntake : Happening κ → Bool
  | .begin | .hear _ | .gather => true
  | _ => false

def inDispatch : Happening κ → Bool
  | .act .. | .deliver _ | .notify .. | .drop _ | .answer .. => true
  | _ => false

def inExpiry : Happening κ → Bool
  | .act .. | .lapse | .answer _ _ .timedOut => true
  | _ => false

def inUpdate : Happening κ → Bool
  | .act .. | .convene | .update _ => true
  | _ => false

end Happening

theorem Program.mem_deeds {p : Program κ σ} {w : World κ} {x : Happening κ} (hx : x ∈ p.deeds w) :
    ∃ a reply, x = .act a reply := by
  induction p generalizing w with
  | finish self memory ending => cases hx
  | act a next ih =>
    obtain rfl | hx := List.mem_cons.mp hx
    · exact ⟨a, _, rfl⟩
    · exact ih _ hx
  | look next ih => exact ih w hx

theorem Stage.mem_deeds {s : Stage κ σ} {b : Behaviour κ σ} {code : κ} {o : Occasion}
    {x : Happening κ} (hx : x ∈ s.deeds b code o) : ∃ a reply, x = .act a reply :=
  Program.mem_deeds hx

theorem Schedule.mem_deeds {b : Behaviour κ σ} {dt : Binary64} {ms : Members (System κ)}
    {s : Stage κ σ} {x : Happening κ} (hx : x ∈ deeds b dt ms s) :
    (∃ a reply, x = .act a reply) ∨ ∃ h, x = .update h := by
  induction ms generalizing s with
  | nil => cases hx
  | cons m ms ih =>
    rw [deeds, List.cons_append, List.mem_cons, List.mem_append] at hx
    obtain rfl | hx | hx := hx
    · exact .inr ⟨m.1, rfl⟩
    · exact .inl (Stage.mem_deeds hx)
    · exact ih hx

theorem Dispatch.mem_deeds {b : Behaviour κ σ} {e : HostEvent} {ms : Members (Subscription κ)}
    {s : Stage κ σ} {x : Happening κ} (hx : x ∈ deeds b e ms s) :
    (∃ a reply, x = .act a reply) ∨ ∃ h, x = .notify h e := by
  induction ms generalizing s with
  | nil => cases hx
  | cons m ms ih =>
    rw [deeds] at hx
    split at hx
    · rw [List.cons_append, List.mem_cons, List.mem_append] at hx
      obtain rfl | hx | hx := hx
      · exact .inr ⟨m.1, rfl⟩
      · exact .inl (Stage.mem_deeds hx)
      · exact ih hx
    · exact ih hx

section
variable {f : Happening κ → Option α} (hf : ∀ a reply, f (.act a reply) = none)
  (b : Behaviour κ σ) (s : Stage κ σ)
include hf

theorem Stage.deeds_filterMap (code : κ) (o : Occasion) : (s.deeds b code o).filterMap f = [] :=
  List.filterMap_eq_nil_iff.mpr fun x hx => by
    obtain ⟨a, reply, rfl⟩ := Stage.mem_deeds hx
    exact hf a reply

theorem Schedule.deeds_filterMap (dt : Binary64) (ms : Members (System κ)) :
    (deeds b dt ms s).filterMap f = ms.filterMap fun m => f (.update m.1) := by
  induction ms generalizing s with
  | nil => rfl
  | cons m ms ih =>
    rw [deeds, List.cons_append, List.filterMap_cons, List.filterMap_append,
      Stage.deeds_filterMap hf, ih, List.filterMap_cons]
    rfl

theorem Dispatch.deeds_filterMap (e : HostEvent) (ms : Members (Subscription κ)) :
    (deeds b e ms s).filterMap f =
      (ms.filter (·.2.wants e)).filterMap fun m => f (.notify m.1 e) := by
  induction ms generalizing s with
  | nil => rfl
  | cons m ms ih =>
    rw [deeds, List.filter_cons]
    split
    · rw [List.cons_append, List.filterMap_cons, List.filterMap_append,
        Stage.deeds_filterMap hf, ih, List.filterMap_cons]
      rfl
    · exact ih s

end

namespace Turn

variable {b : Behaviour κ σ} {t : Turn κ σ} {x : Happening κ}

theorem mem_along {β : Type} {deal : Turn κ σ → β → Turn κ σ} {deeds : Turn κ σ → β → History κ}
    {as : List β} (hx : x ∈ along deal deeds t as) : ∃ u, ∃ a ∈ as, x ∈ deeds u a := by
  induction as generalizing t with
  | nil => cases hx
  | cons a as ih =>
    obtain hx | hx := List.mem_append.mp hx
    · exact ⟨t, a, .head _, hx⟩
    · obtain ⟨u, a, ha, hx⟩ := ih hx
      exact ⟨u, a, .tail _ ha, hx⟩

theorem handleDeeds_inDispatch {a : Arrival} (hx : x ∈ t.handleDeeds b a) :
    x.inDispatch = true := by
  cases a with
  | event e =>
    rw [handleDeeds] at hx
    split at hx
    · rw [List.mem_singleton.mp hx]
      rfl
    · obtain rfl | hx := List.mem_cons.mp hx
      · rfl
      · obtain ⟨a, reply, rfl⟩ | ⟨h, rfl⟩ := Dispatch.mem_deeds hx <;> rfl
  | response id o =>
    rw [handleDeeds] at hx
    split at hx
    · obtain rfl | hx := List.mem_cons.mp hx
      · rfl
      · obtain ⟨a, reply, rfl⟩ := Stage.mem_deeds hx
        rfl
    · rw [List.mem_singleton.mp hx]
      rfl

theorem handleAll_inDispatch {as : List Arrival}
    (hx : x ∈ t.along (handle b) (handleDeeds b) as) : x.inDispatch = true := by
  obtain ⟨u, a, _, hx⟩ := mem_along hx
  exact handleDeeds_inDispatch hx

theorem expireDeeds_inExpiry (hx : x ∈ t.expireDeeds b) : x.inExpiry = true := by
  obtain rfl | hx := List.mem_cons.mp hx
  · rfl
  · obtain ⟨u, q, _, hx⟩ := mem_along hx
    obtain rfl | hx := List.mem_cons.mp hx
    · rfl
    · obtain ⟨a, reply, rfl⟩ := Stage.mem_deeds hx
      rfl

theorem updateDeeds_inUpdate {dt : Binary64} (hx : x ∈ t.updateDeeds b dt) :
    x.inUpdate = true := by
  rw [updateDeeds] at hx
  split at hx
  · cases hx
  · obtain rfl | hx := List.mem_cons.mp hx
    · rfl
    · obtain ⟨a, reply, rfl⟩ | ⟨h, rfl⟩ := Schedule.mem_deeds hx <;> rfl

end Turn

namespace Session

def opening (b : Behaviour κ σ) (s : Session κ σ) : History κ :=
  .begin :: s.link.toScene.waiting.map .hear ++ (Turn.begin s).receiveAll.dispatchDeeds b
    ++ (s.dispatched b).expireDeeds b

section
variable {b : Behaviour κ σ} {dt : Binary64} {s : Session κ σ}

theorem intake_inIntake {x : Happening κ}
    (hx : x ∈ (.begin :: s.link.toScene.waiting.map .hear : History κ)) : x.inIntake = true := by
  obtain rfl | hx := List.mem_cons.mp hx
  · rfl
  · obtain ⟨frame, _, rfl⟩ := List.mem_map.mp hx
    rfl

theorem mem_opening {x : Happening κ} (hx : x ∈ s.opening b) :
    x.inIntake = true ∨ x.inDispatch = true ∨ x.inExpiry = true := by
  rw [opening, List.mem_append, List.mem_append] at hx
  obtain (hx | hx) | hx := hx
  · exact .inl (intake_inIntake hx)
  · obtain rfl | hx := List.mem_cons.mp hx
    · exact .inl rfl
    · exact .inr (.inl (Turn.handleAll_inDispatch hx))
  · exact .inr (.inr (Turn.expireDeeds_inExpiry hx))

theorem opening_trail (b : Behaviour κ σ) (hf : s.failure = none) :
    Moment.Trail s.moment (s.opening b) (((s.dispatched b).expire b).moment .work [] []) :=
  (dispatched_trail b hf).trans (Turn.expire_trail b _)

theorem deeds_opening (hf : s.failure = none)
    (hd : ¬ (Turn.begin s).receiveAll.session.link.toScene.isDry = true) :
    s.deeds b (.tick dt) = s.opening b ++ ((s.dispatched b).expire b).updateDeeds b dt
      ++ [(s.worked b dt).telling] := by
  rw [deeds_wet b dt hf hd, workDeeds, opening]
  simp only [List.append_assoc]
  rfl

end

end Session

end Diorama
