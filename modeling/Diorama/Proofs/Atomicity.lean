import Diorama.Proofs.Refinement

/-!
When operations on entities and components fail, and that they then leave the world as it was. What
they do is also told write by write, where a write that was made before a failure stays made: it
comes to the same, since all that can fail comes before all that is written.
-/

namespace Diorama

variable {κ : Type}

namespace Table

variable {κ α : Type} [DecidableEq κ] [LT κ]

theorem erase_absent {t : Table κ α} {k : κ} (h : t.contains k = false) : t.erase k = t := by
  obtain ⟨es, ho⟩ := t
  have hn : find? k es = none := Option.isSome_eq_false_iff.mp h |> Option.isNone_iff_eq_none.mp
  have hd : drop k es = es := List.filter_eq_self.mpr fun e he => by
    simpa using find?_eq_none.mp hn e he
  simp only [erase, hd]

end Table

namespace Store

/-- No entity has a row without components. -/
def Tidy (s : Store) : Prop := ∀ e row, s.rows.get? e = some row → row.isEmpty = false

namespace Tidy

variable {s : Store}

theorem fresh : Tidy {} := nofun

theorem erase (hs : s.Tidy) (e : Entity) : Tidy ⟨s.rows.erase e⟩ := by
  intro x row hx
  rw [Table.get?_erase] at hx
  split at hx
  · cases hx
  · exact hs x row hx

theorem setRow (hs : s.Tidy) {e : Entity} {row : Table String Json} (hr : row.isEmpty = false) :
    Tidy ⟨s.rows.insert e row⟩ := by
  intro x row' hx
  rw [Table.get?_insert] at hx
  split at hx
  · obtain rfl := Option.some.inj hx
    exact hr
  · exact hs x row' hx

theorem insert (hs : s.Tidy) (e : Entity) (c : String) (v : Json) : (s.insert e c v).2.Tidy := by
  refine hs.setRow ?_
  rw [← Bool.not_eq_true, Table.isEmpty_iff]
  intro hn
  have hc := hn c
  rw [Table.get?_insert, if_pos rfl] at hc
  cases hc

theorem remove (hs : s.Tidy) (e : Entity) (c : String) : (s.remove e c).2.Tidy := by
  simp only [Store.remove]
  split
  · exact hs.erase e
  · rename_i hr
    exact hs.setRow (Bool.eq_false_iff.mpr hr)

theorem remove_absent (hs : s.Tidy) {e : Entity} {c : String} (hc : s.get? e c = none) :
    (s.remove e c).2 = s := by
  have hr : (s.row e).erase c = s.row e := Table.erase_absent (Option.isSome_eq_false_iff.mpr (by
    rw [Option.isNone_iff_eq_none]
    exact hc))
  simp only [Store.remove, hr]
  cases he : s.rows.get? e with
  | none =>
    have hn : s.row e = ∅ := by rw [row, he, Option.getD_none]
    have hc : s.rows.contains e = false := by rw [Table.contains, he, Option.isSome_none]
    rw [hn]
    exact congrArg Store.mk (Table.erase_absent hc)
  | some row' =>
    have hn : s.row e = row' := by rw [row, he, Option.getD_some]
    rw [hn, hs e row' he, if_neg Bool.false_ne_true]
    congr 1
    refine Table.ext_get? fun x => ?_
    rw [Table.get?_insert]
    split
    · rename_i hx
      rw [← hx, he]
    · rfl

end Tidy

end Store

/-- Work on a world, write by write. A failure ends it, and takes nothing back. -/
abbrev Work (κ ε α : Type) := ExceptT ε (StateM (World κ)) α

namespace Work

variable {ε α : Type}

def take (x : Except ε α) : Work κ ε α := MonadExcept.ofExcept x

def setStore (store : Store) : Work κ ε Unit := modify fun w => { w with store }

def setAlive (alive : Table Entity Unit) : Work κ ε Unit :=
  modify fun w => { w with entities.alive := alive }

def touch (e : Entity) (c : String) : Work κ ε Unit :=
  modify fun w => { w with changes := w.changes.touch e c }

def noteDestroyed (e : Entity) : Work κ ε Unit :=
  modify fun w => { w with changes := w.changes.destroy e }

/-- An entity is taken out of the living before it shows that it was not one of them. -/
def destroy (e : Entity) : Work κ Failure Unit := do
  let w ← get
  setAlive (w.entities.alive.erase e)
  if !w.isAlive e then throw (.unknownEntity e)
  setStore (w.store.removeEntity e).2
  (w.store.removeEntity e).1.forM (touch e)
  noteDestroyed e

def put (e : Entity) (c : String) (v : Json) : Work κ ε Unit := do
  setStore ((← get).store.insert e c v).2
  touch e c

def attach (e : Entity) (c : String) (v : Json) : Work κ Failure Unit := do
  let w ← get
  take (w.entities.ensureAlive e)
  take (w.types.check c v)
  put e c v

/-- The change is made to a value that nobody else has. -/
def mutate (e : Entity) (c : String) (change : Json → Except Panic Json) :
    Work κ Setback Unit := do
  let w ← get
  let v ← take ((w.base e c).mapError .failure)
  let v ← take ((change v).mapError .panic)
  take ((w.types.check c v).mapError .failure)
  put e c v

/-- A component is taken out of the store before it shows that it was not there. -/
def detach (e : Entity) (c : String) : Work κ Failure Bool := do
  let w ← get
  take (w.entities.ensureAlive e)
  let (old, store) := w.store.remove e c
  setStore store
  if old.isNone then return false
  touch e c
  return true

end Work

namespace World

def performInPlace (w : World κ) : (a : Action κ) → a.Reply × World κ
  | .destroy e => (Work.destroy e).run w
  | .attach e c v => (Work.attach e c v).run w
  | .mutate e c change => (Work.mutate e c change).run w
  | .detach e c => (Work.detach e c).run w
  | a => w.perform a

end World

namespace Work

variable {ε α β : Type}

/-- Work that begins by checking something goes on just as a pure operation does that begins with
the same check. -/
theorem run_take (x : Except ε α) {f : α → Work κ ε Unit} {g : α → Except ε (World κ)} {w : World κ}
    (h : ∀ a, x = .ok a → (f a).run w = w.settle (g a)) :
    (take x >>= f).run w = w.settle (x >>= g) := by
  cases x with
  | error e => rfl
  | ok a => exact h a rfl

theorem run_touches (e : Entity) (names : List String) (w : World κ) :
    (names.forM (touch e) : Work κ Failure Unit).run w =
      (.ok (), { w with changes := names.foldl (·.touch e ·) w.changes }) := by
  induction names generalizing w with
  | nil => rfl
  | cons c names ih => exact ih _

theorem attach_run (e : Entity) (c : String) (v : Json) (w : World κ) :
    (attach e c v).run w = w.settle (w.attach e c v) :=
  run_take (w.entities.ensureAlive e) fun _ _ => run_take (w.types.check c v) fun _ _ => rfl

theorem mutate_run (e : Entity) (c : String) (change : Json → Except Panic Json) (w : World κ) :
    (mutate e c change).run w = w.settle (w.mutate e c change) :=
  run_take _ fun _ _ => run_take _ fun _ _ => run_take _ fun _ _ => rfl

theorem run_get (f : World κ → Work κ ε α) (w : World κ) : (get >>= f).run w = (f w).run w := rfl

theorem run_bind {x : Work κ ε α} {a : α} {w w' : World κ} (h : x.run w = (.ok a, w'))
    (f : α → Work κ ε β) : (x >>= f).run w = (f a).run w' := by
  change (match (x.run w : Except ε α × World κ) with
    | (r, w') => (ExceptT.bindCont f r : StateM (World κ) _) w') = _
  rw [h]
  rfl

theorem destroy_run (e : Entity) (w : World κ) : (destroy e).run w = w.settle (w.destroy e) := by
  rw [destroy, run_get, World.destroy, Entities.destroy]
  cases ha : w.isAlive e with
  | true =>
    have ha : w.entities.isAlive e = true := ha
    have hn := run_touches e (w.store.names e) { w with
      entities.alive := w.entities.alive.erase e, store := (w.store.removeEntity e).2 }
    rw [if_pos ha]
    change ((w.store.names e).forM (touch e) >>= fun _ => noteDestroyed e : Work κ Failure Unit).run
      { w with entities.alive := w.entities.alive.erase e, store := (w.store.removeEntity e).2 } = _
    rw [run_bind hn]
    rfl
  | false =>
    have ha : w.entities.isAlive e = false := ha
    have hn := Table.erase_absent ha
    rw [hn, ha]
    rfl

theorem detach_run {e : Entity} {c : String} {w : World κ} (hw : w.store.Tidy) :
    (detach e c).run w = w.perform (.detach e c) := by
  simp only [World.perform, World.detach]
  rw [detach, run_get]
  cases ha : w.entities.ensureAlive e with
  | error f => rfl
  | ok _ =>
    generalize hr : w.store.remove e c = r
    obtain ⟨_ | v, store⟩ := r
    -- The store is written before it shows that there was nothing to take away.
    · have hs : store = w.store :=
        (congrArg Prod.snd hr).symm.trans (hw.remove_absent (congrArg Prod.fst hr))
      rw [hs]
      rfl
    · rfl

end Work

theorem World.performInPlace_eq {w : World κ} (hw : w.store.Tidy) (a : Action κ) :
    w.performInPlace a = w.perform a := by
  cases a with
  | destroy e => exact Work.destroy_run e w
  | attach e c v => exact Work.attach_run e c v w
  | mutate e c change => exact Work.mutate_run e c change w
  | detach e c => exact Work.detach_run hw
  | _ => rfl

theorem Scene.Edit.tidy {s s' : Scene} {created? destroyed? : Option Entity}
    {touched? : Option (Entity × String)} (he : s.Edit created? destroyed? touched? s')
    (hs : s.store.Tidy) : s'.store.Tidy := by
  cases he with
  | create => exact hs
  | destroy _ => exact hs.erase _
  | put v _ => exact hs.insert _ _ v
  | detach _ => exact hs.remove _ _
  | nothing => exact hs

theorem Moment.Trail.tidy {m : Moment κ} {h : History κ} {types : Registry}
    (hh : Moment.Trail (.fresh types) h m) : m.world.store.Tidy := by
  induction hh with
  | nil => exact .fresh
  | @snoc h m₁ m₂ x hm hx ih =>
    obtain hq | ⟨seq, result, _, ht⟩ := hx.quiet_or_told
    · exact hq.edit.tidy ih
    · have hs : m₂.world.store = m₁.world.store := congrArg Scene.store ht.scene
      rw [hs]
      exact ih

namespace Action

/-- The entity that an operation is about which has to be alive for it. -/
def target? : Action κ → Option Entity
  | .destroy e | .attach e _ _ | .mutate e _ _ | .detach e _ => some e
  | _ => none

def setback? : (a : Action κ) → a.Reply → Option Setback
  | .destroy _, .error f => some (.failure f)
  | .attach .., .error f => some (.failure f)
  | .mutate .., .error x => some x
  | .detach .., .error f => some (.failure f)
  | _, _ => none

/-- An operation has failed, or there was nothing to take away. -/
def IsVain : (a : Action κ) → a.Reply → Prop
  | .detach e c, reply => reply = .ok false ∨ (setback? (.detach e c) reply).isSome
  | a, reply => (setback? a reply).isSome

end Action

namespace World

/-- From which value a change of a component starts: from that which the entity has, or else from
that which the type declares. -/
def Starts (w : World κ) (e : Entity) (c : String) (t : ComponentType) (v : Json) : Prop :=
  w.get? e c = some v ∨ w.get? e c = none ∧ t.default? = some v

theorem starts_iff {w : World κ} {e : Entity} {c : String} {t : ComponentType} {v : Json} :
    w.Starts e c t v ↔ (w.get? e c <|> t.default?) = some v := by
  rw [Starts]
  cases w.get? e c <;> simp

/-- Why an operation cannot be done. -/
inductive Refuses (w : World κ) : Action κ → Setback → Prop
  | dead {a : Action κ} {e : Entity} (ht : a.target? = some e) (ha : w.isAlive e = false) :
      Refuses w a (.failure (.unknownEntity e))
  | attachUndeclared {e : Entity} {c : String} {v : Json} (ha : w.isAlive e = true)
      (ht : w.types.get? c = none) : Refuses w (.attach e c v) (.failure (.unknownType c))
  | attachUnfit {e : Entity} {c : String} {v : Json} {t : ComponentType} {x : TypeFault}
      (ha : w.isAlive e = true) (ht : w.types.get? c = some t) (hx : t.fault? v = some x) :
      Refuses w (.attach e c v) (.failure (.invalidValue c x))
  | mutateUndeclared {e : Entity} {c : String} {change : Json → Except Panic Json}
      (ha : w.isAlive e = true) (ht : w.types.get? c = none) :
      Refuses w (.mutate e c change) (.failure (.unknownType c))
  | mutateNothing {e : Entity} {c : String} {change : Json → Except Panic Json} {t : ComponentType}
      (ha : w.isAlive e = true) (ht : w.types.get? c = some t) (hv : w.get? e c = none)
      (hd : t.default? = none) : Refuses w (.mutate e c change) (.failure (.componentNotFound e c))
  | mutatePanics {e : Entity} {c : String} {change : Json → Except Panic Json} {t : ComponentType}
      {u : Json} {p : Panic} (ha : w.isAlive e = true) (ht : w.types.get? c = some t)
      (hu : w.Starts e c t u) (hp : change u = .error p) : Refuses w (.mutate e c change) (.panic p)
  | mutateUnfit {e : Entity} {c : String} {change : Json → Except Panic Json} {t : ComponentType}
      {u v : Json} {x : TypeFault} (ha : w.isAlive e = true) (ht : w.types.get? c = some t)
      (hu : w.Starts e c t u) (hv : change u = .ok v) (hx : t.fault? v = some x) :
      Refuses w (.mutate e c change) (.failure (.invalidValue c x))

section
variable {w : World κ} {e : Entity} {c : String}

theorem ensureAlive_alive (ha : w.isAlive e = true) : w.entities.ensureAlive e = .ok () := if_pos ha

theorem ensureAlive_dead (ha : w.isAlive e = false) :
    w.entities.ensureAlive e = .error (.unknownEntity e) := if_neg (Bool.eq_false_iff.mp ha)

theorem get?_alive (ha : w.isAlive e = true) : w.get? e c = w.store.get? e c := if_pos ha

theorem destroy_alive (ha : w.isAlive e = true) :
    w.destroy e = .ok (w.withScene (w.scene.destroy e)) := by
  have ha : w.entities.isAlive e = true := ha
  rw [destroy, Entities.destroy, if_pos ha]
  rfl

theorem detach_alive (ha : w.isAlive e = true) :
    w.detach e c = .ok (if (w.store.get? e c).isSome
      then (true, w.withScene (w.scene.detach e c)) else (false, w)) := by
  rw [detach, ensureAlive_alive ha]
  cases hv : (w.store.get? e c).isSome <;> simp only [Store.remove, hv] <;> rfl

theorem attach_alive (ha : w.isAlive e = true) (v : Json) :
    w.attach e c v = match w.types.get? c with
      | none => .error (.unknownType c)
      | some t =>
        match t.fault? v with
        | some x => .error (.invalidValue c x)
        | none => .ok (w.put e c v) := by
  rw [attach, ensureAlive_alive ha, Registry.check]
  cases w.types.get? c with
  | none => rfl
  | some t => cases hx : t.fault? v <;> simp only [hx] <;> rfl

theorem base_alive (ha : w.isAlive e = true) :
    w.base e c = match w.types.get? c with
      | none => .error (.unknownType c)
      | some t =>
        match w.get? e c <|> t.default? with
        | none => .error (.componentNotFound e c)
        | some u => .ok u := by
  rw [base, ensureAlive_alive ha, get?_alive ha, Table.contains, Registry.default?]
  cases w.types.get? c with
  | none => rfl
  | some t =>
    simp only [Option.bind_some]
    cases w.store.get? e c <|> t.default? <;> rfl

theorem mutate_alive (ha : w.isAlive e = true) (change : Json → Except Panic Json) :
    w.mutate e c change = match w.types.get? c with
      | none => .error (.failure (.unknownType c))
      | some t =>
        match w.get? e c <|> t.default? with
        | none => .error (.failure (.componentNotFound e c))
        | some u =>
          match change u with
          | .error p => .error (.panic p)
          | .ok v =>
            match t.fault? v with
            | some x => .error (.failure (.invalidValue c x))
            | none => .ok (w.put e c v) := by
  rw [mutate, base_alive ha]
  simp only [Registry.check]
  cases w.types.get? c with
  | none => rfl
  | some t =>
    cases hu : w.get? e c <|> t.default? with
    | none => simp only [hu]; rfl
    | some u =>
      cases hc : change u with
      | error p => simp only [hu, hc, bind, Except.bind, Except.mapError]
      | ok v =>
        cases hx : t.fault? v <;> simp only [hu, hc, hx, bind, Except.bind, Except.mapError]; rfl

theorem destroy_dead (ha : w.isAlive e = false) : w.destroy e = .error (.unknownEntity e) := by
  have ha : w.entities.isAlive e = false := ha
  rw [destroy, Entities.destroy, ha]
  rfl

theorem attach_dead (ha : w.isAlive e = false) (v : Json) :
    w.attach e c v = .error (.unknownEntity e) := by
  rw [attach, ensureAlive_dead ha]
  rfl

theorem base_dead (ha : w.isAlive e = false) : w.base e c = .error (.unknownEntity e) := by
  rw [base, ensureAlive_dead ha]
  rfl

theorem mutate_dead (ha : w.isAlive e = false) (change : Json → Except Panic Json) :
    w.mutate e c change = .error (.failure (.unknownEntity e)) := by
  rw [mutate, base_dead ha]
  rfl

theorem detach_dead (ha : w.isAlive e = false) : w.detach e c = .error (.unknownEntity e) := by
  rw [detach, ensureAlive_dead ha]
  rfl

theorem setback?_dead {a : Action κ} (ht : a.target? = some e) (ha : w.isAlive e = false) :
    a.setback? (w.perform a).1 = some (.failure (.unknownEntity e)) := by
  cases a with
  | destroy x =>
    obtain rfl := Option.some.inj ht
    rw [perform, destroy_dead ha]
    rfl
  | attach x c v =>
    obtain rfl := Option.some.inj ht
    rw [perform, attach_dead ha]
    rfl
  | mutate x c change =>
    obtain rfl := Option.some.inj ht
    rw [perform, mutate_dead ha]
    rfl
  | detach x c =>
    obtain rfl := Option.some.inj ht
    rw [perform, detach_dead ha]
    rfl
  | _ => cases ht

end

variable {w : World κ} {a : Action κ} {x : Setback}

theorem Refuses.setback? (h : w.Refuses a x) : a.setback? (w.perform a).1 = some x := by
  cases h with
  | dead ht ha => exact setback?_dead ht ha
  | attachUndeclared ha ht =>
    rw [perform, attach_alive ha, ht]
    rfl
  | attachUnfit ha ht hx =>
    rw [perform, attach_alive ha, ht]
    simp only [hx]
    rfl
  | mutateUndeclared ha ht =>
    rw [perform, mutate_alive ha, ht]
    rfl
  | mutateNothing ha ht hv hd =>
    rw [perform, mutate_alive ha, ht, hv]
    simp only [hd]
    rfl
  | mutatePanics ha ht hu hp =>
    rw [perform, mutate_alive ha, ht]
    simp only [starts_iff.mp hu, hp]
    rfl
  | mutateUnfit ha ht hu hv hx =>
    rw [perform, mutate_alive ha, ht]
    simp only [starts_iff.mp hu, hv, hx]
    rfl

theorem refuses_dead {e : Entity} (ht : a.target? = some e) (ha : w.isAlive e = false)
    (h : a.setback? (w.perform a).1 = some x) : w.Refuses a x := by
  rw [setback?_dead ht ha] at h
  obtain rfl := Option.some.inj h
  exact .dead ht ha

theorem refuses_attach {e : Entity} {c : String} {v : Json} (ha : w.isAlive e = true)
    (h : (Action.attach e c v).setback? (w.perform (.attach e c v)).1 = some x) :
    w.Refuses (.attach e c v) x := by
  rw [perform, attach_alive ha] at h
  cases ht : w.types.get? c with
  | none =>
    rw [ht] at h
    cases h
    exact .attachUndeclared ha ht
  | some t =>
    rw [ht] at h
    cases hx : t.fault? v with
    | none =>
      simp only [hx] at h
      cases h
    | some f =>
      simp only [hx] at h
      cases h
      exact .attachUnfit ha ht hx

theorem refuses_mutate {e : Entity} {c : String} {change : Json → Except Panic Json}
    (ha : w.isAlive e = true)
    (h : (Action.mutate e c change).setback? (w.perform (.mutate e c change)).1 = some x) :
    w.Refuses (.mutate e c change) x := by
  rw [perform, mutate_alive ha] at h
  cases ht : w.types.get? c with
  | none =>
    rw [ht] at h
    cases h
    exact .mutateUndeclared ha ht
  | some t =>
    rw [ht] at h
    cases hu : w.get? e c <|> t.default? with
    | none =>
      simp only [hu] at h
      cases h
      cases hv : w.get? e c with
      | none =>
        rw [hv] at hu
        exact .mutateNothing ha ht hv hu
      | some u =>
        rw [hv] at hu
        cases hu
    | some u =>
      have hs : w.Starts e c t u := starts_iff.mpr hu
      simp only [hu] at h
      cases hc : change u with
      | error p =>
        rw [hc] at h
        cases h
        exact .mutatePanics ha ht hs hc
      | ok v =>
        rw [hc] at h
        cases hx : t.fault? v with
        | none =>
          simp only [hx] at h
          cases h
        | some f =>
          simp only [hx] at h
          cases h
          exact .mutateUnfit ha ht hs hc hx

theorem setback?_iff : a.setback? (w.perform a).1 = some x ↔ w.Refuses a x := by
  refine ⟨fun h => ?_, Refuses.setback?⟩
  cases a with
  | destroy e =>
    cases ha : w.isAlive e with
    | false => exact refuses_dead rfl ha h
    | true =>
      rw [perform, destroy_alive ha] at h
      cases h
  | attach e c v =>
    cases ha : w.isAlive e with
    | false => exact refuses_dead rfl ha h
    | true => exact refuses_attach ha h
  | mutate e c change =>
    cases ha : w.isAlive e with
    | false => exact refuses_dead rfl ha h
    | true => exact refuses_mutate ha h
  | detach e c =>
    cases ha : w.isAlive e with
    | false => exact refuses_dead rfl ha h
    | true =>
      rw [perform, detach_alive ha] at h
      cases h
  | _ => cases h

theorem settle_not_ok {ε : Type} {r : Except ε (World κ)} (h : (w.settle r).1 ≠ .ok ()) :
    (w.settle r).2 = w := by
  cases r with
  | error _ => rfl
  | ok _ => exact absurd rfl h

theorem perform_vain (h : a.IsVain (w.perform a).1) : (w.perform a).2 = w := by
  cases a with
  | destroy e =>
    refine settle_not_ok fun hk => ?_
    rw [perform, hk] at h
    cases h
  | attach e c v =>
    refine settle_not_ok fun hk => ?_
    rw [perform, hk] at h
    cases h
  | mutate e c change =>
    refine settle_not_ok fun hk => ?_
    rw [perform, hk] at h
    cases h
  | detach e c =>
    cases ha : w.isAlive e with
    | false => rw [perform, detach_dead ha]
    | true =>
      rw [perform, detach_alive ha] at h ⊢
      cases hv : (w.store.get? e c).isSome with
      | false => rfl
      | true =>
        rw [hv] at h
        obtain h | h := h <;> cases h
  | _ => cases h

/-- An operation on an entity and its components fails for the first of the reasons that there may
be, and for no other. If it fails, or if there was nothing to take away, then all is as it was: for
the code that goes on, and for the host when it is next told of the changes. This does not depend on
what is done first: written out write by write, every operation comes to the same, in every world
whose store has no row without components, as it is at every moment of a run. -/
theorem failed_operations_change_nothing (w : World κ) (a : Action κ) :
    (∀ x, a.setback? (w.perform a).1 = some x ↔ w.Refuses a x) ∧
    (a.IsVain (w.perform a).1 →
      (w.perform a).2 = w ∧
      (∀ r : Replica, r.sync (w.perform a).2.changes (w.perform a).2.store =
        r.sync w.changes w.store) ∧
      ∀ (σ : Type) (next : a.Reply → Program κ σ) (s : Stage κ σ), s.world = w →
        (Program.act a next).run s = (next (w.perform a).1).run s) ∧
    (w.store.Tidy → w.performInPlace a = w.perform a) ∧
    ∀ (types : Registry) (h : History κ) (m : Moment κ),
      Moment.Trail (.fresh types) h m → m.world.store.Tidy := by
  refine ⟨fun x => setback?_iff, fun hv => ?_, fun hw => performInPlace_eq hw a,
    fun types h m hm => hm.tidy⟩
  have hw := perform_vain hv
  refine ⟨hw, fun r => by rw [hw], fun σ next s hs => ?_⟩
  subst hs
  rw [Program.run]
  simp only [hw]

/-- An entity has no count yet, and the code that is to change it starts from none and breaks
off. -/
theorem failed_operations_change_nothing_panicking :
    let w : World Unit :=
      ({} : World Unit).create.2.declare { name := "Count", default? := some .null }
    let a : Action Unit := .mutate ⟨1⟩ "Count" fun _ => .error .other
    w.Refuses a (.panic .other) ∧ (w.perform a).2 = w ∧ w.performInPlace a = w.perform a := by
  intro w a
  obtain ⟨hx, hv, hp, -⟩ := failed_operations_change_nothing w a
  have hs : a.setback? (w.perform a).1 = some (.panic .other) := rfl
  have ht : w.store.Tidy := .fresh
  exact ⟨(hx _).mp hs, (hv (Option.isSome_of_mem hs)).1, hp ht⟩

end World

end Diorama
