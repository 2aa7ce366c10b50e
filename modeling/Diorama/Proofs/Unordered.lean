import Diorama.Proofs.Listings
import Diorama.Proofs.Lookup
import Mathlib.Data.List.Forall2
import Mathlib.Data.List.Sort

/-!
Worlds in which maps are gone through in any order. Two worlds that differ in such orders do not
come apart: the same operations succeed in both, the same questions run out of time in the same
order, and the host is told the same. What is left of the orders is the components that were noted
of entities that are gone, and these it is never told.
-/

namespace Diorama

variable {κ : Type}

namespace Changes

/-- Of an entity that is gone other components may be noted. -/
def AlikeRow (destroyed : List Entity) (t t' : Entity × List String) : Prop :=
  t.1 = t'.1 ∧ (t.1 ∈ destroyed ∨ t.2 = t'.2)

structure Alike (c c' : Changes) : Prop where
  created : c.created = c'.created
  destroyed : c.destroyed = c'.destroyed
  touched : List.Forall₂ (AlikeRow c.destroyed) c.touched c'.touched

theorem forall₂_touchIn {destroyed : List Entity} {e : Entity} {n n' : String}
    (hn : e ∈ destroyed ∨ n = n') {ts ts' : List (Entity × List String)}
    (h : List.Forall₂ (AlikeRow destroyed) ts ts') :
    List.Forall₂ (AlikeRow destroyed) (touchIn e n ts) (touchIn e n' ts') := by
  induction h with
  | nil => exact .cons ⟨rfl, hn.imp_right (congrArg fun n => [n])⟩ .nil
  | @cons t t' ts ts' ht hts ih =>
    obtain ⟨f, names⟩ := t
    obtain ⟨f', names'⟩ := t'
    obtain ⟨rfl, hr⟩ := ht
    rw [touchIn, touchIn]
    split
    · rename_i he
      subst he
      refine .cons ⟨rfl, ?_⟩ hts
      obtain hd | rfl := hn
      · exact .inl hd
      · exact hr.imp_right (congrArg (note n))
    · exact .cons ⟨rfl, hr⟩ ih

theorem destroy_touches (c : Changes) (e : Entity) (names : List String) :
    (names.foldl (·.touch e ·) c).destroy e = names.foldl (·.touch e ·) (c.destroy e) := by
  induction names generalizing c with
  | nil => rfl
  | cons n names ih => exact ih (c.touch e n)

namespace Alike

variable {c c' : Changes}

theorem refl (c : Changes) : c.Alike c :=
  ⟨rfl, rfl, List.forall₂_same.mpr fun _ _ => ⟨rfl, .inr rfl⟩⟩

theorem create (h : c.Alike c') (e : Entity) : (c.create e).Alike (c'.create e) :=
  ⟨congrArg (note e) h.created, h.destroyed, h.touched⟩

theorem touch (h : c.Alike c') {e : Entity} {n n' : String} (hn : e ∈ c.destroyed ∨ n = n') :
    (c.touch e n).Alike (c'.touch e n') :=
  ⟨h.created, h.destroyed, forall₂_touchIn hn h.touched⟩

theorem destroy (h : c.Alike c') (e : Entity) : (c.destroy e).Alike (c'.destroy e) :=
  ⟨h.created, congrArg (note e) h.destroyed, h.touched.imp fun _ _ ht =>
    ht.imp_right (Or.imp_left fun hd => mem_note.mpr (.inl hd))⟩

theorem touches (h : c.Alike c') {e : Entity} (he : e ∈ c.destroyed) {names names' : List String}
    (hl : names.length = names'.length) :
    (names.foldl (·.touch e ·) c).Alike (names'.foldl (·.touch e ·) c') := by
  induction names generalizing names' c c' with
  | nil =>
    obtain rfl := List.length_eq_zero_iff.mp hl.symm
    exact h
  | cons n names ih =>
    cases names' with
    | nil => cases hl
    | cons n' names' => exact ih (h.touch (.inl he)) he (Nat.succ.inj hl)

theorem destroys (h : c.Alike c') (e : Entity) {names names' : List String}
    (hl : names.length = names'.length) :
    ((names.foldl (·.touch e ·) c).destroy e).Alike
      ((names'.foldl (·.touch e ·) c').destroy e) := by
  rw [destroy_touches, destroy_touches]
  exact (h.destroy e).touches (mem_note.mpr (.inr rfl)) hl

end Alike

end Changes

namespace Replica

theorem tellTouched_alike {destroyed : List Entity} {t t' : Entity × List String}
    (h : Changes.AlikeRow destroyed t t') (s : Store) (r : Replica) :
    tellTouched destroyed s r t = tellTouched destroyed s r t' := by
  obtain ⟨f, names⟩ := t
  obtain ⟨f', names'⟩ := t'
  obtain ⟨rfl, hd | rfl⟩ := h
  · rw [tellTouched, tellTouched, if_pos (.inl hd), if_pos (.inl hd)]
  · rfl

theorem tellAll_forall₂ {α : Type} {R : α → α → Prop}
    {tell : Replica → α → List Operation × Replica}
    (ht : ∀ r a a', R a a' → tell r a = tell r a') {as as' : List α} (h : List.Forall₂ R as as')
    (r : Replica) : tellAll tell r as = tellAll tell r as' := by
  induction h generalizing r with
  | nil => rfl
  | cons ha _ ih => simp only [tellAll, ht r _ _ ha, ih]

theorem sync_alike {c c' : Changes} (h : c.Alike c') (r : Replica) (s : Store) :
    r.sync c' s = r.sync c s := by
  have ht := tellAll_forall₂ (fun r t t' (ht : Changes.AlikeRow c.destroyed t t') =>
    tellTouched_alike ht s r) h.touched
  simp only [sync, ← h.created, ← h.destroyed, ht]

end Replica

namespace Store

def listed (l : Listing) (s : Store) (e : Entity) : List String :=
  (l.of (s.row e).entries).map (·.1)

theorem mem_listed {l : Listing} {s : Store} {e : Entity} {c : String} :
    c ∈ s.listed l e ↔ (s.get? e c).isSome = true :=
  ((l.perm _).map _).mem_iff.trans Table.mem_keys

theorem nodup_listed (l : Listing) (s : Store) (e : Entity) : (s.listed l e).Nodup :=
  ((l.perm _).map _).nodup_iff.mpr ((s.row e).ordered.map _ fun _ _ h => Std.ne_of_lt h)

theorem length_listed (l : Listing) (s : Store) (e : Entity) :
    (s.listed l e).length = (s.row e).entries.length :=
  (List.length_map _).trans (l.perm _).length_eq

end Store

namespace World

def destroyBy (l : Listing) (w : World κ) (e : Entity) : Except Failure (World κ) := do
  let entities ← w.entities.destroy e
  let changes := ((w.store.listed l e).foldl (·.touch e ·) w.changes).destroy e
  return { w with entities, store := (w.store.removeEntity e).2, changes }

def attachBy (order : List Descent → Listing) (w : World κ) (e : Entity) (c : String) (v : Json) :
    Except Failure (World κ) := do
  w.entities.ensureAlive e
  w.types.checkBy order c v
  return w.put e c v

def mutateBy (order : List Descent → Listing) (w : World κ) (e : Entity) (c : String)
    (change : Json → Except Panic Json) : Except Setback (World κ) := do
  let v ← (w.base e c).mapError .failure
  let v ← (change v).mapError .panic
  (w.types.checkBy order c v).mapError .failure
  return w.put e c v

/-- Do something to a world in which maps are gone through in these orders: an entity that is
destroyed by the first, and a value that is checked by one for every place in it. -/
def performBy (order : List Descent → Listing) (w : World κ) : (a : Action κ) → a.Reply × World κ
  | .destroy e => w.settle (w.destroyBy (order []) e)
  | .attach e c v => w.settle (w.attachBy order e c v)
  | .mutate e c change => w.settle (w.mutateBy order e c change)
  | a => w.perform a

theorem performBy_table (w : World κ) (a : Action κ) :
    w.performBy (fun _ => .table) a = w.perform a := by
  cases a with
  | attach e c v => simp only [performBy, perform, attachBy, attach, Registry.checkBy_table]
  | mutate e c f => simp only [performBy, perform, mutateBy, mutate, Registry.checkBy_table]
  | _ => rfl

/-- The second of two worlds is like the first, but for what is noted of entities that are gone. -/
def Alike (w w' : World κ) : Prop := ∃ changes, w.changes.Alike changes ∧ w' = { w with changes }

end World

/-- Code learns the same of an action that is carried out twice, but of several bad fields it may
hear of another. -/
inductive Action.Alike : (a : Action κ) → a.Reply → a.Reply → Prop
  | same (a : Action κ) (reply : a.Reply) : Alike a reply reply
  | attach (e : Entity) (c : String) {v : Json} {x x' : TypeFault} (h : Reworded v x x') :
      Alike (.attach e c v) (.error (.invalidValue c x)) (.error (.invalidValue c x'))
  | mutate (e : Entity) (c : String) {change : Json → Except Panic Json} {u v : Json}
      {x x' : TypeFault} (hv : change u = .ok v) (h : Reworded v x x') :
      Alike (.mutate e c change) (.error (.failure (.invalidValue c x)))
        (.error (.failure (.invalidValue c x')))

namespace World

variable {w w' : World κ}

theorem Alike.put (h : w.Alike w') (e : Entity) (c : String) (v : Json) :
    (w.put e c v).Alike (w'.put e c v) := by
  obtain ⟨changes, hc, rfl⟩ := h
  exact ⟨_, hc.touch (.inr rfl), rfl⟩

theorem destroyBy_alike (h : w.Alike w') (l l' : Listing) (e : Entity) :
    w.destroyBy l e = .error (.unknownEntity e) ∧ w'.destroyBy l' e = .error (.unknownEntity e) ∨
      ∃ u u', w.destroyBy l e = .ok u ∧ w'.destroyBy l' e = .ok u' ∧ u.Alike u' := by
  obtain ⟨changes, hc, rfl⟩ := h
  simp only [destroyBy, Entities.destroy, bind, Except.bind]
  by_cases ha : w.entities.isAlive e = true
  · rw [if_pos ha]
    refine .inr ⟨_, _, rfl, rfl, _, hc.destroys e ?_, rfl⟩
    rw [Store.length_listed, Store.length_listed]
  · rw [if_neg ha]
    exact .inl ⟨rfl, rfl⟩

theorem Alike.performBy (h : w.Alike w') (f g : List Descent → Listing) (a : Action κ) :
    a.Alike (w.performBy f a).1 (w'.performBy g a).1 ∧
      (w.performBy f a).2.Alike (w'.performBy g a).2 := by
  cases a with
  | destroy e =>
    obtain ⟨he, he'⟩ | ⟨u, u', hu, hu', ha⟩ := destroyBy_alike h (f []) (g []) e
    · simp only [World.performBy, he, he', settle]
      exact ⟨.same _ _, h⟩
    · simp only [World.performBy, hu, hu', settle]
      exact ⟨.same _ _, ha⟩
  | attach e c v =>
    have hp := h.put e c v
    obtain ⟨changes, hc, rfl⟩ := h
    simp only [World.performBy, attachBy, bind, Except.bind]
    cases w.entities.ensureAlive e with
    | error x => exact ⟨.same _ _, changes, hc, rfl⟩
    | ok _ =>
      obtain hs | ⟨x, x', hx, hf, hg⟩ := w.types.checkBy_alike f g c v
      · rw [hs]
        cases w.types.checkBy g c v with
        | error x => exact ⟨.same _ _, changes, hc, rfl⟩
        | ok _ => exact ⟨.same _ _, hp⟩
      · rw [hf, hg]
        exact ⟨.attach e c hx, changes, hc, rfl⟩
  | mutate e c change =>
    have hp := h.put e c
    obtain ⟨changes, hc, rfl⟩ := h
    have hb : base { w with changes } e c = w.base e c := rfl
    simp only [World.performBy, mutateBy, bind, Except.bind, hb]
    cases w.base e c with
    | error x => exact ⟨.same _ _, changes, hc, rfl⟩
    | ok u =>
      simp only [Except.mapError]
      cases hv : change u with
      | error x => exact ⟨.same _ _, changes, hc, rfl⟩
      | ok v =>
        obtain hs | ⟨x, x', hx, hf, hg⟩ := w.types.checkBy_alike f g c v
        · simp only [hs]
          cases w.types.checkBy g c v with
          | error x => exact ⟨.same _ _, changes, hc, rfl⟩
          | ok _ => exact ⟨.same _ _, hp v⟩
        · simp only [hf, hg]
          exact ⟨.mutate e c hv hx, changes, hc, rfl⟩
  | detach e c =>
    obtain ⟨changes, hc, rfl⟩ := h
    simp only [World.performBy, perform, detach, bind, Except.bind]
    cases w.entities.ensureAlive e with
    | error x => exact ⟨.same _ _, changes, hc, rfl⟩
    | ok _ =>
      cases (w.store.remove e c).1.isSome with
      | false => exact ⟨.same _ _, changes, hc, rfl⟩
      | true => exact ⟨.same _ _, _, hc.touch (.inr rfl), rfl⟩
  | create =>
    obtain ⟨changes, hc, rfl⟩ := h
    exact ⟨.same _ _, _, hc.create _, rfl⟩
  | _ =>
    obtain ⟨changes, hc, rfl⟩ := h
    exact ⟨.same _ _, changes, hc, rfl⟩

end World

namespace Store

theorem erase_remove (s : Store) (e : Entity) (c : String) :
    (s.remove e c).2.rows.erase e = s.rows.erase e := by
  refine Table.ext_get? fun x => ?_
  rw [Table.get?_erase, Table.get?_erase]
  by_cases hx : e = x
  · rw [if_pos hx, if_pos hx]
  · simp only [remove, if_neg hx]
    split
    · rw [Table.get?_erase, if_neg hx]
    · rw [Table.get?_insert, if_neg hx]

def bare (s : Store) (e : Entity) (names : List String) : Store :=
  names.foldl (fun s c => (s.remove e c).2) s

theorem erase_bare (s : Store) (e : Entity) (names : List String) :
    (s.bare e names).rows.erase e = s.rows.erase e := by
  induction names generalizing s with
  | nil => rfl
  | cons c names ih => exact (ih _).trans (s.erase_remove e c)

theorem get?_bare (s : Store) (e : Entity) (names : List String) (c : String) :
    (s.bare e names).get? e c = if c ∈ names then none else s.get? e c := by
  induction names generalizing s with
  | nil => rfl
  | cons d names ih =>
    refine (ih _).trans ?_
    rw [get?_remove]
    by_cases hc : c ∈ names
    · rw [if_pos hc, if_pos (.tail _ hc)]
    · rw [if_neg hc]
      by_cases hd : d = c
      · rw [if_pos ⟨rfl, hd⟩, if_pos (hd ▸ .head _)]
      · rw [if_neg fun h => hd h.2, if_neg fun h => (List.mem_cons.mp h).elim (Ne.symm hd) hc]

theorem row_bare {s : Store} {e : Entity} {names : List String}
    (hn : ∀ c, (s.get? e c).isSome = true → c ∈ names) : (s.bare e names).row e = ∅ :=
  Table.ext_get? fun c => by
    refine (s.get?_bare e names c).trans ?_
    by_cases hc : c ∈ names
    · exact if_pos hc
    · exact (if_neg hc).trans (Option.not_isSome_iff_eq_none.mp (mt (hn c) hc))

end Store

namespace World

variable {w : World κ} {e : Entity}

def bare (w : World κ) (xs : List (Entity × String)) : World κ :=
  xs.foldl (fun w x => (w.perform (.detach x.1 x.2)).2) w

theorem bare_alive (ha : w.isAlive e = true) {names : List String} (hn : names.Nodup)
    (hc : ∀ c ∈ names, (w.store.get? e c).isSome = true) :
    w.bare (names.map (e, ·)) = { w with
      store := w.store.bare e names, changes := names.foldl (·.touch e ·) w.changes } := by
  induction names generalizing w with
  | nil => rfl
  | cons c names ih =>
    obtain ⟨hd, hn⟩ := List.nodup_cons.mp hn
    obtain ⟨hs, hc⟩ := List.forall_mem_cons.mp hc
    have hw : (w.perform (.detach e c)).2 = { w with
        store := (w.store.remove e c).2, changes := w.changes.touch e c } := by
      have he : w.entities.isAlive e = true := ha
      have hr : (w.store.remove e c).1.isSome = true := hs
      simp only [perform, detach, Entities.ensureAlive, bind, Except.bind, if_pos he, if_pos hr]
      rfl
    rw [bare, List.map_cons, List.foldl_cons, hw]
    refine ih (w := { w with store := (w.store.remove e c).2, changes := w.changes.touch e c }) ha
      hn fun d hd' => ?_
    have hne : c ≠ d := fun h => hd (h ▸ hd')
    rw [Store.get?_remove, if_neg fun h => hne h.2]
    exact hc d hd'

theorem bare_dead (ha : w.isAlive e = false) (names : List String) :
    w.bare (names.map (e, ·)) = w := by
  induction names with
  | nil => rfl
  | cons c names ih =>
    have hw : (w.perform (.detach e c)).2 = w := by
      have he : ¬ w.entities.isAlive e = true := Bool.not_eq_true _ ▸ ha
      simp only [perform, detach, Entities.ensureAlive, bind, Except.bind, if_neg he]
    rw [bare, List.map_cons, List.foldl_cons, hw]
    exact ih

/-- The components that go with an action, in the order in which they are listed. -/
def leftovers (l : Listing) (w : World κ) : Action κ → List (Entity × String)
  | .destroy e => (w.store.listed l e).map (e, ·)
  | _ => []

theorem performBy_destroy (order : List Descent → Listing) (w : World κ) (e : Entity) :
    (w.performBy order (.destroy e)).2 =
      ((w.bare (w.leftovers (order []) (.destroy e))).perform (.destroy e)).2 := by
  rw [leftovers]
  cases ha : w.isAlive e with
  | false =>
    have he : ¬ w.entities.isAlive e = true := Bool.not_eq_true _ ▸ ha
    rw [bare_dead ha]
    simp only [performBy, perform, destroyBy, destroy, Entities.destroy, bind, Except.bind,
      if_neg he, settle]
  | true =>
    have he : w.entities.isAlive e = true := ha
    have hp : (w.performBy order (.destroy e)).2 = { w with
        entities := { w.entities with alive := w.entities.alive.erase e }
        store := ⟨w.store.rows.erase e⟩
        changes := ((w.store.listed (order []) e).foldl (·.touch e ·) w.changes).destroy e } := by
      simp only [performBy, destroyBy, Entities.destroy, bind, Except.bind, if_pos he, settle]
      rfl
    have hr := Store.row_bare fun c (hc : (w.store.get? e c).isSome = true) =>
      (Store.mem_listed (l := order [])).mpr hc
    have hs := w.store.erase_bare e (w.store.listed (order []) e)
    rw [hp, bare_alive ha (Store.nodup_listed ..) fun c hc => Store.mem_listed.mp hc]
    simp only [perform, destroy, Entities.destroy, bind, Except.bind, if_pos he, settle,
      Store.removeEntity, Store.names, hr, hs]
    rfl

theorem performBy_check (order : List Descent → Listing) (w : World κ) {a : Action κ}
    (hd : ∀ e, a ≠ .destroy e) : (w.performBy order a).2 = (w.perform a).2 := by
  cases a with
  | destroy e => exact absurd rfl (hd e)
  | attach e c v =>
    simp only [performBy, perform, attachBy, attach, bind, Except.bind]
    cases w.entities.ensureAlive e with
    | error x => rfl
    | ok _ =>
      rw [← Registry.checkBy_table]
      obtain hs | ⟨x, x', _, hf, hg⟩ := w.types.checkBy_alike order (fun _ => .table) c v
      · rw [hs]
      · rw [hf, hg]
        rfl
  | mutate e c change =>
    simp only [performBy, perform, mutateBy, mutate, bind, Except.bind]
    cases (w.base e c).mapError Setback.failure with
    | error x => rfl
    | ok u =>
      simp only
      cases (change u).mapError Setback.panic with
      | error x => rfl
      | ok v =>
        simp only [← Registry.checkBy_table]
        obtain hs | ⟨x, x', _, hf, hg⟩ := w.types.checkBy_alike order (fun _ => .table) c v
        · rw [hs]
        · rw [hf, hg]
          rfl
  | _ => rfl

/-- What an action does in some order can be done by actions that leave nothing to order. -/
theorem performBy_bare (order : List Descent → Listing) (w : World κ) (a : Action κ) :
    (w.performBy order a).2 = ((w.bare (w.leftovers (order []) a)).perform a).2 := by
  cases a with
  | destroy e => exact performBy_destroy order w e
  | _ => exact performBy_check order w (fun _ => by rintro ⟨⟩)

end World

namespace Queries

def resolveAll (q : Queries κ) : List RequestId → List (RequestId × κ) × Queries κ
  | [] => ([], q)
  | id :: ids =>
    let (code, q) := q.resolve id
    let (gone, q) := q.resolveAll ids
    ((code.map (id, ·)).toList ++ gone, q)

/-- Take out the questions whose time is up, when those that wait are looked through in some order.
Their names are sorted before the first of them is taken out. -/
def expireBy (l : Listing) (q : Queries κ) (now timeout : Nat) :
    List (RequestId × κ) × Queries κ :=
  if timeout = 0 then ([], q)
  else
    let gone := (l.of q.pending.entries).filter fun e => Pending.expired now timeout e.2
    q.resolveAll ((gone.map (·.1)).insertionSort fun a b => a.text ≤ b.text)

theorem resolveAll_eq (q : Queries κ) {gone : List (RequestId × Pending κ)}
    (hg : gone.Pairwise (·.1 < ·.1)) (hq : ∀ e ∈ gone, q.pending.get? e.1 = some e.2) :
    q.resolveAll (gone.map (·.1)) =
      (gone.map fun e => (e.1, e.2.callback),
        { q with pending := gone.foldl (fun t e => t.erase e.1) q.pending }) := by
  induction gone generalizing q with
  | nil => rfl
  | cons e gone ih =>
    obtain ⟨he, hg⟩ := List.pairwise_cons.mp hg
    obtain ⟨hq₁, hq⟩ := List.forall_mem_cons.mp hq
    have hr : ∀ x ∈ gone, (q.pending.erase e.1).get? x.1 = some x.2 := fun x hx => by
      have hne : e.1 ≠ x.1 := fun h => Std.lt_irrefl (h ▸ he x hx)
      rw [Table.get?_erase, if_neg hne, hq x hx]
    rw [List.map_cons, resolveAll, resolve, hq₁]
    simp only [ih { q with pending := q.pending.erase e.1 } hg hr]
    rfl

theorem sort_eq {ids names : List RequestId} (hp : ids.Perm names)
    (hn : names.Pairwise (· < ·)) : ids.insertionSort (fun a b => a.text ≤ b.text) = names := by
  let r (a b : RequestId) : Prop := a.text ≤ b.text
  have total : Std.Total r := ⟨fun a b => Std.le_total (a := a.text) (b := b.text)⟩
  have trans : IsTrans RequestId r := ⟨fun _ _ _ => Std.le_trans (α := String)⟩
  exact ((List.perm_insertionSort r ids).trans hp).eq_of_pairwise
    (fun a b _ _ => Std.le_antisymm (α := RequestId)) (List.pairwise_insertionSort r ids)
    (hn.imp fun h => Std.le_of_lt (α := RequestId) h)

theorem expireBy_eq (l : Listing) (q : Queries κ) (now timeout : Nat) :
    q.expireBy l now timeout = q.expire now timeout := by
  rw [expireBy, expire]
  split
  · rfl
  · have hp := ((l.perm q.pending.entries).filter fun e => Pending.expired now timeout e.2).map
      (·.1)
    have hg : (q.pending.entries.filter fun e => Pending.expired now timeout e.2).Pairwise
        (·.1 < ·.1) := q.pending.ordered.filter _
    refine (congrArg q.resolveAll (sort_eq hp (hg.map _ fun _ _ h => h))).trans ?_
    exact q.resolveAll_eq hg fun e he => Table.get?_eq_some.mpr (List.mem_filter.mp he).1

end Queries

end Diorama
