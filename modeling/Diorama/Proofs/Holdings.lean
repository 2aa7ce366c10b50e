import Diorama.Proofs.Replay

namespace Diorama

variable {κ σ : Type}

namespace Happening

def written? : Happening κ → Option (Entity × String)
  | .act (.attach e c _) (.ok ()) => some (e, c)
  | .act (.mutate e c _) (.ok ()) => some (e, c)
  | _ => none

def concerns (e : Entity) (c : String) (x : Happening κ) : Bool :=
  x.touched? = some (e, c) ∨ x.destroyed? = some e

end Happening

theorem Registry.check_ok {r : Registry} {c : String} {v : Json} (h : r.check c v = .ok ()) :
    ∃ t, r.get? c = some t ∧ t.fault? v = none := by
  rw [check] at h
  split at h
  · cases h
  · rename_i t ht
    refine ⟨t, ht, ?_⟩
    split at h
    · cases h
    · assumption

theorem World.put_checked {w : World κ} {e : Entity} {c : String} {u v : Json}
    (hc : w.types.check c u = .ok ())
    (hv : (w.withScene (w.scene.put e c u)).store.get? e c = some v) :
    ∃ t, w.types.get? c = some t ∧ t.fault? v = none := by
  have hs : u = v := by simpa [withScene, Scene.put] using hv
  exact hs ▸ Registry.check_ok hc

theorem World.perform_written (w : World κ) (a : Action κ) {e : Entity} {c : String} {v : Json}
    (ht : (Happening.act a (w.perform a).1).touched? = some (e, c))
    (hv : (w.perform a).2.store.get? e c = some v) :
    (Happening.act a (w.perform a).1).written? = some (e, c) ∧
      ∃ t, w.types.get? c = some t ∧ t.fault? v = none := by
  cases a with
  | attach e' c' v' =>
    cases h : w.attach e' c' v' with
    | error f =>
      simp only [perform, h, settle] at ht
      cases ht
    | ok w' =>
      obtain ⟨_, hc, rfl⟩ := attach_ok h
      simp only [perform, h, settle] at ht hv ⊢
      cases ht
      exact ⟨rfl, put_checked hc hv⟩
  | mutate e' c' f =>
    cases h : w.mutate e' c' f with
    | error f =>
      simp only [perform, h, settle] at ht
      cases ht
    | ok w' =>
      obtain ⟨_, v', hc, rfl⟩ := mutate_ok h
      simp only [perform, h, settle] at ht hv ⊢
      cases ht
      exact ⟨rfl, put_checked hc hv⟩
  | detach e' c' =>
    cases h : w.detach e' c' with
    | error f =>
      simp only [perform, h] at ht
      cases ht
    | ok r =>
      obtain ⟨b, w'⟩ := r
      obtain ⟨_, ⟨rfl, rfl⟩ | ⟨rfl, rfl⟩⟩ := detach_ok h
      -- A component that was taken off is not there afterwards.
      · simp only [perform, h] at ht hv
        cases ht
        simp [withScene, Scene.detach] at hv
      · simp only [perform, h] at ht
        cases ht
  | _ => cases ht

theorem Scene.Edit.get? {s s' : Scene} {created? destroyed? : Option Entity}
    {touched? : Option (Entity × String)} (h : s.Edit created? destroyed? touched? s')
    {e : Entity} {c : String} {v : Json} (hv : s'.store.get? e c = some v) :
    touched? = some (e, c) ∧ s'.entities.isAlive e = true ∨
      (touched? ≠ some (e, c) ∧ destroyed? ≠ some e) ∧ s.store.get? e c = some v ∧
        (s.entities.isAlive e = true → s'.entities.isAlive e = true) := by
  cases h with
  | create =>
    refine .inr ⟨⟨nofun, nofun⟩, hv, fun ha => ?_⟩
    rw [Scene.create, Entities.isAlive_create, ha, Bool.or_true]
  | @destroy x ha =>
    rw [Scene.destroy, Store.get?_removeEntity] at hv
    by_cases hx : x = e
    · rw [if_pos hx] at hv
      cases hv
    · rw [if_neg hx] at hv
      refine .inr ⟨⟨nofun, fun h => hx (Option.some.inj h)⟩, hv, fun ha => ?_⟩
      rw [Scene.destroy, Entities.isAlive_erase, ha]
      simp [hx]
  | @put x d v' ha =>
    rw [Scene.put, Store.get?_insert] at hv
    by_cases hx : x = e ∧ d = c
    · obtain ⟨rfl, rfl⟩ := hx
      exact .inl ⟨rfl, ha⟩
    · rw [if_neg hx] at hv
      exact .inr ⟨⟨fun h => hx (Prod.mk.inj (Option.some.inj h)), nofun⟩, hv, id⟩
  | @detach x d ha =>
    rw [Scene.detach, Store.get?_remove] at hv
    by_cases hx : x = e ∧ d = c
    · rw [if_pos hx] at hv
      cases hv
    · rw [if_neg hx] at hv
      exact .inr ⟨⟨fun h => hx (Prod.mk.inj (Option.some.inj h)), nofun⟩, hv, id⟩
  | nothing => exact .inr ⟨⟨nofun, nofun⟩, hv, id⟩

theorem Snapshot.next_edit {n : Snapshot κ} {x : Happening κ} (timeout : Nat) (hx : n.Admits x) :
    ∃ changes, n.world.scene.Edit x.created? x.destroyed? x.touched?
      { (n.next timeout x).world.scene with changes } := by
  cases x with
  | act a reply =>
    obtain rfl : reply = _ := hx
    exact ⟨_, n.world.perform_edit a⟩
  | answer id code o => cases o <;> exact ⟨n.world.changes, .nothing⟩
  | _ => exact ⟨n.world.changes, .nothing⟩

namespace History

/-- The value is what was last written to the component, and it fitted the type that was declared
then. -/
def Checked (timeout : Nat) (types : Registry) (h : History κ) (e : Entity) (c : String)
    (v : Json) : Prop :=
  ∃ (g g' : History κ) (x : Happening κ) (t : ComponentType), h = g ++ x :: g' ∧
    x.written? = some (e, c) ∧
    (replay timeout types (g ++ [x])).world.store.get? e c = some v ∧
    (g.replay timeout types).world.types.get? c = some t ∧ t.fault? v = none ∧
    ∀ y ∈ g', y.concerns e c = false

variable {timeout : Nat} {types : Registry} {h : History κ} {x : Happening κ} {e : Entity}
  {c : String} {v : Json}

theorem Checked.concat (hc : h.Checked timeout types e c v) (hx : x.concerns e c = false) :
    Checked timeout types (h ++ [x]) e c v := by
  obtain ⟨g, g', y, t, rfl, hy, hv, ht, hf, hr⟩ := hc
  refine ⟨g, g' ++ [x], y, t, by simp, hy, hv, ht, hf, fun z hz => ?_⟩
  obtain hz | hz := List.mem_append.mp hz
  · exact hr z hz
  · exact List.mem_singleton.mp hz ▸ hx

/-- What is known of the entities and the store after a history. -/
structure Sound (timeout : Nat) (types : Registry) (h : History κ) : Prop where
  census : Census h (h.replay timeout types).world.entities
  held {e : Entity} {c : String} {v : Json} :
    (h.replay timeout types).world.store.get? e c = some v →
      (h.replay timeout types).world.isAlive e = true ∧ h.Checked timeout types e c v

theorem Sound.concat (hs : h.Sound timeout types) (hx : (h.replay timeout types).Admits x) :
    Sound timeout types (h ++ [x]) := by
  obtain ⟨changes, he⟩ := Snapshot.next_edit timeout hx
  have hc := hs.census.step he.entities
  rw [← replay_concat] at he
  refine ⟨replay_concat ▸ hc, fun {e c v} hv => ?_⟩
  obtain ⟨ht, ha⟩ | ⟨⟨ht, hd⟩, hw, ha⟩ := he.get? hv
  · refine ⟨ha, ?_⟩
    cases x with
    | act a reply =>
      obtain rfl : reply = _ := hx
      have hp := hv
      rw [replay_concat] at hp
      obtain ⟨hw, t, htt, hf⟩ := World.perform_written _ a ht hp
      exact ⟨h, [], _, t, rfl, hw, hv, htt, hf, fun y hy => absurd hy List.not_mem_nil⟩
    | _ => cases ht
  · obtain ⟨hl, hk⟩ := hs.held hw
    exact ⟨ha hl, hk.concat (by simp [Happening.concerns, ht, hd])⟩

theorem Follows.sound (hh : h.Follows timeout types) : h.Sound timeout types :=
  Follows.always (g := []) ⟨.fresh, nofun⟩ (fun _ _ hx hs => hs.concat hx.admits) hh

theorem Follows.not_created {g : History κ} (hh : Follows timeout types (g ++ h))
    (he : e ∈ g.created) : e ∉ h.created := by
  intro hm
  obtain ⟨x, hx, hc⟩ := List.mem_filterMap.mp hm
  obtain ⟨p, q, rfl⟩ := List.append_of_mem hx
  rw [← List.append_assoc] at hh
  obtain ⟨changes, hs⟩ := Snapshot.next_edit timeout hh.admits
  have hn := hh.left.sound.census.new
  obtain rfl := (hc ▸ hs.entities).eq_next
  refine hn ?_
  rw [created, List.filterMap_append]
  exact List.mem_append_left _ he

end History

namespace Session

/-- At every point of a run the components in the store belong to living entities and have values
that fitted their types when they were last written. Living entities have been handed out before,
and one that was destroyed does not live, and is not handed out, ever again. -/
theorem store_holds_checked_values (b : Behaviour κ σ) (config : Config) (types : Registry)
    (memory : σ) (moves : List (Move κ σ)) (g g' : History κ)
    (hg : (start config ({ types } : World κ) memory).history b moves = g ++ g') :
    let u := (start config ({ types } : World κ) memory).after b moves
    let w := (g.replay config.queryTimeoutTicks types).world
    (∀ e c v, w.store.get? e c = some v →
      w.isAlive e = true ∧ g.Checked config.queryTimeoutTicks types e c v) ∧
    (∀ e, w.isAlive e = true → e.id < w.entities.next) ∧
    (∀ e ∈ g.destroyed, w.isAlive e = false ∧ w.create.1 ≠ e ∧ e ∉ g'.created) ∧
    (∀ a reply g'', g' = .act a reply :: g'' → reply = (w.perform a).1) ∧
    (g' = [] → w = u.world) := by
  intro u w
  obtain ⟨hh, hu⟩ := run_replayed b config types memory moves
  rw [hg] at hh hu
  have hs := hh.left.sound
  refine ⟨fun e c v => hs.held, fun e ha => ?_, fun e he => ⟨?_, ?_, ?_⟩,
    fun a reply g'' he => ?_, fun he => ?_⟩
  · have hl := (hs.census.alive e).symm.trans ha
    exact hs.census.issued (of_decide_eq_true hl).1
  · have hl : g.isLiving e = false := decide_eq_false fun hl => hl.2 he
    exact (hs.census.alive e).trans hl
  · rintro rfl
    exact hs.census.new (hs.census.known he)
  · exact hh.not_created (hs.census.known he)
  · rw [he] at hh
    exact hh.admits
  · rw [he, List.append_nil] at hu
    exact hu.world

/-- A type is declared anew, and what was attached before does not fit it any more. -/
theorem store_holds_checked_values_outdated :
    let number : ComponentType := { name := "T", fields := [("n", .number)] }
    let string : ComponentType := { name := "T", fields := [("n", .string)] }
    let v : Json := .obj [("n", Registry.zero)]
    let s := start {} ({ types := ∅ } : World Unit) ()
    let moves : List (Move Unit Unit) := [.act (.declare number), .act .create, .act .create,
      .act (.attach ⟨1⟩ "T" v), .act (.declare string), .act (.attach ⟨1⟩ "T" v),
      .act (.destroy ⟨2⟩)]
    let h := s.history .idle moves
    let w := (s.after .idle moves).world
    (∃ v, w.store.get? ⟨1⟩ "T" = some v ∧ w.isAlive ⟨1⟩ = true ∧ h.Checked 300 ∅ ⟨1⟩ "T" v ∧
      (w.types.check "T" v).isOk = false) ∧ w.isAlive ⟨2⟩ = false ∧ w.create.1 ≠ ⟨2⟩ := by
  intro number string v s moves h w
  obtain ⟨hs, _, hd, _, hw⟩ := store_holds_checked_values .idle {} ∅ () moves h []
    (List.append_nil h).symm
  rw [hw rfl] at hs hd
  have hv : (w.store.get? ⟨1⟩ "T").any (fun v => !(w.types.check "T" v).isOk) = true := by
    decide +kernel
  have he : ⟨2⟩ ∈ h.destroyed := by decide +kernel
  obtain ⟨v, hv, hc⟩ := (Option.any_eq_true _ _).mp hv
  obtain ⟨hg, hn, _⟩ := hd ⟨2⟩ he
  exact ⟨⟨v, hv, (hs ⟨1⟩ "T" v hv).1, (hs ⟨1⟩ "T" v hv).2, by simpa using hc⟩, hg, hn⟩

end Session

end Diorama
