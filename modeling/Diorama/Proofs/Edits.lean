import Diorama.Proofs.History

namespace Diorama

variable {κ : Type}

/-- What the host is to know of a world, and the changes that it has not been told yet. -/
structure Scene where
  entities : Entities := {}
  store : Store := {}
  changes : Changes := {}

def World.scene (w : World κ) : Scene := ⟨w.entities, w.store, w.changes⟩

namespace Scene

def create (s : Scene) : Scene :=
  { s with entities := s.entities.create.2, changes := s.changes.create ⟨s.entities.next⟩ }

def destroy (s : Scene) (e : Entity) : Scene where
  entities := { s.entities with alive := s.entities.alive.erase e }
  store := (s.store.removeEntity e).2
  changes := ((s.store.names e).foldl (·.touch e ·) s.changes).destroy e

def put (s : Scene) (e : Entity) (c : String) (v : Json) : Scene :=
  { s with store := (s.store.insert e c v).2, changes := s.changes.touch e c }

def detach (s : Scene) (e : Entity) (c : String) : Scene :=
  { s with store := (s.store.remove e c).2, changes := s.changes.touch e c }

/-- An edit, with the entity that it creates, the entity that it destroys and the component that it
touches. -/
inductive Edit (s : Scene) :
    Option Entity → Option Entity → Option (Entity × String) → Scene → Prop
  | create : Edit s (some ⟨s.entities.next⟩) none none s.create
  | destroy {e : Entity} (ha : s.entities.isAlive e = true) :
      Edit s none (some e) none (s.destroy e)
  | put {e : Entity} {c : String} (v : Json) (ha : s.entities.isAlive e = true) :
      Edit s none none (some (e, c)) (s.put e c v)
  | detach {e : Entity} {c : String} (ha : s.entities.isAlive e = true) :
      Edit s none none (some (e, c)) (s.detach e c)
  | nothing : Edit s none none none s

end Scene

theorem mapError_ok {ε ε' α : Type} {f : ε → ε'} {x : Except ε α} {a : α}
    (h : x.mapError f = .ok a) : x = .ok a := by
  cases x with
  | error _ => cases h
  | ok _ => exact congrArg Except.ok (Except.ok.inj h)

namespace World

/-- A world with other entities and components, and the changes that led to them. -/
def withScene (w : World κ) (s : Scene) : World κ :=
  { w with entities := s.entities, store := s.store, changes := s.changes }

/-- What goes wrong at the beginning leaves both worlds as they were. -/
theorem settle_bind {ε α : Type} {R : World κ → World κ → Prop} {w u : World κ} (h : R w u)
    {x : Except ε α} {f g : α → Except ε (World κ)}
    (hf : ∀ a, R (w.settle (f a)).2 (u.settle (g a)).2) :
    R (w.settle (x >>= f)).2 (u.settle (x >>= g)).2 := by
  cases x with
  | error e => exact h
  | ok a => exact hf a

theorem destroy_ok {w w' : World κ} {e : Entity} (h : w.destroy e = .ok w') :
    w.isAlive e = true ∧ w' = w.withScene (w.scene.destroy e) := by
  simp only [destroy, Entities.destroy, bind, Except.bind] at h
  by_cases ha : w.entities.isAlive e = true
  · rw [if_pos ha] at h
    exact ⟨ha, (Except.ok.inj h).symm⟩
  · rw [if_neg ha] at h
    cases h

theorem ensureAlive_ok {es : Entities} {e : Entity} {u : Unit} (h : es.ensureAlive e = .ok u) :
    es.isAlive e = true := by
  by_cases ha : es.isAlive e = true
  · exact ha
  · rw [Entities.ensureAlive, if_neg ha] at h
    cases h

theorem attach_ok {w w' : World κ} {e : Entity} {c : String} {v : Json}
    (h : w.attach e c v = .ok w') :
    w.isAlive e = true ∧ w.types.check c v = .ok () ∧ w' = w.withScene (w.scene.put e c v) := by
  simp only [attach, bind, Except.bind] at h
  split at h
  · cases h
  · rename_i ha
    split at h
    · cases h
    · rename_i hc
      exact ⟨ensureAlive_ok ha, hc, (Except.ok.inj h).symm⟩

theorem base_ok {w : World κ} {e : Entity} {c : String} {v : Json} (h : w.base e c = .ok v) :
    w.isAlive e = true := by
  simp only [base, bind, Except.bind] at h
  split at h
  · cases h
  · rename_i ha
    exact ensureAlive_ok ha

theorem mutate_ok {w w' : World κ} {e : Entity} {c : String} {f : Json → Except Panic Json}
    (h : w.mutate e c f = .ok w') :
    w.isAlive e = true ∧
      ∃ v, w.types.check c v = .ok () ∧ w' = w.withScene (w.scene.put e c v) := by
  simp only [mutate, bind, Except.bind] at h
  split at h
  · cases h
  · rename_i hb
    split at h
    · cases h
    · split at h
      · cases h
      · rename_i hc
        exact ⟨base_ok (mapError_ok hb), _, mapError_ok hc, (Except.ok.inj h).symm⟩

theorem detach_ok {w w' : World κ} {e : Entity} {c : String} {b : Bool}
    (h : w.detach e c = .ok (b, w')) :
    w.isAlive e = true ∧
      (b = true ∧ w' = w.withScene (w.scene.detach e c) ∨ b = false ∧ w' = w) := by
  simp only [detach, bind, Except.bind] at h
  split at h
  · cases h
  · rename_i ha
    refine ⟨ensureAlive_ok ha, ?_⟩
    split at h
    · obtain ⟨rfl, rfl⟩ := Prod.mk.inj (Except.ok.inj h)
      exact .inl ⟨rfl, rfl⟩
    · obtain ⟨rfl, rfl⟩ := Prod.mk.inj (Except.ok.inj h)
      exact .inr ⟨rfl, rfl⟩

end World

def Action.isEdit : Action κ → Bool
  | .create | .destroy _ | .attach .. | .mutate .. | .detach .. => true
  | _ => false

namespace World

theorem perform_isEdit (w : World κ) {a : Action κ} (ha : a.isEdit = true) :
    ∃ s, (w.perform a).2 = w.withScene s ∧
      w.scene.Edit (Happening.act a (w.perform a).1).created?
        (Happening.act a (w.perform a).1).destroyed?
        (Happening.act a (w.perform a).1).touched? s := by
  cases a with
  | create => exact ⟨_, rfl, .create⟩
  | destroy e =>
    cases h : w.destroy e with
    | error f =>
      simp only [perform, h, settle]
      exact ⟨w.scene, rfl, .nothing⟩
    | ok w' =>
      obtain ⟨hl, rfl⟩ := destroy_ok h
      simp only [perform, h, settle]
      exact ⟨_, rfl, .destroy hl⟩
  | attach e c v =>
    cases h : w.attach e c v with
    | error f =>
      simp only [perform, h, settle]
      exact ⟨w.scene, rfl, .nothing⟩
    | ok w' =>
      obtain ⟨hl, _, rfl⟩ := attach_ok h
      simp only [perform, h, settle]
      exact ⟨_, rfl, .put v hl⟩
  | mutate e c f =>
    cases h : w.mutate e c f with
    | error f =>
      simp only [perform, h, settle]
      exact ⟨w.scene, rfl, .nothing⟩
    | ok w' =>
      obtain ⟨hl, v, _, rfl⟩ := mutate_ok h
      simp only [perform, h, settle]
      exact ⟨_, rfl, .put v hl⟩
  | detach e c =>
    cases h : w.detach e c with
    | error f =>
      simp only [perform, h]
      exact ⟨w.scene, rfl, .nothing⟩
    | ok r =>
      obtain ⟨b, w'⟩ := r
      obtain ⟨hl, ⟨rfl, rfl⟩ | ⟨rfl, rfl⟩⟩ := detach_ok h
      · simp only [perform, h]
        exact ⟨_, rfl, .detach hl⟩
      · simp only [perform, h]
        exact ⟨_, rfl, .nothing⟩
  | _ => cases ha

theorem perform_edit (w : World κ) (a : Action κ) :
    w.scene.Edit (Happening.act a (w.perform a).1).created?
      (Happening.act a (w.perform a).1).destroyed? (Happening.act a (w.perform a).1).touched?
      (w.perform a).2.scene := by
  by_cases ha : a.isEdit = true
  · obtain ⟨s, hw, hs⟩ := w.perform_isEdit ha
    rw [hw]
    exact hs
  · cases a <;> first | exact .nothing | exact absurd rfl ha

@[simp] theorem perform_tick (w : World κ) (a : Action κ) : (w.perform a).2.tick = w.tick := by
  by_cases ha : a.isEdit = true
  · obtain ⟨s, hw, _⟩ := w.perform_isEdit ha
    rw [hw]
    rfl
  · cases a <;> first | rfl | exact absurd rfl ha

theorem declared (w : World κ) (t : ComponentType) (c : String) :
    (w.declare t).types.get? c = if t.name = c then some t else w.types.get? c :=
  Table.get?_insert w.types t.name c t

theorem perform_types (w : World κ) (a : Action κ) (c : String) :
    (w.perform a).2.types.get? c = w.types.get? c ∨
      ∃ t, a = .declare t ∧ t.name = c ∧ (w.perform a).2.types.get? c = some t := by
  by_cases ha : a.isEdit = true
  · obtain ⟨s, hw, _⟩ := w.perform_isEdit ha
    rw [hw]
    exact .inl rfl
  · cases a with
    | declare t =>
      have hd := w.declared t c
      by_cases hc : t.name = c
      · exact .inr ⟨t, rfl, hc, hd.trans (if_pos hc)⟩
      · exact .inl (hd.trans (if_neg hc))
    | _ => first | exact .inl rfl | exact absurd rfl ha

end World

end Diorama
