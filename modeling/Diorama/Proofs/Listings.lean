import Diorama.Proofs.Edits

/-!
Maps in no order of their own. Where the entries of a map are gone through one after another, which
comes first is left open: the types of components that an entity leaves behind when it is destroyed,
the questions that wait for an answer, and the declared fields that a check visits. It decides which
of several bad fields a failure tells of, and what is noted of entities that are gone, but nothing
else.
-/

namespace Diorama

variable {κ α : Type}

/-- An order in which to go through the entries of a map. -/
structure Listing where
  of {α : Type} : List α → List α
  perm {α : Type} (as : List α) : (of as).Perm as

namespace Listing

def table : Listing := ⟨id, fun as => .refl as⟩

def reversed : Listing := ⟨List.reverse, List.reverse_perm⟩

def first (l : Listing) (found : List (Option α)) : Option α := (l.of found).findSome? id

theorem first_isSome (l : Listing) (found : List (Option α)) :
    (l.first found).isSome = found.any Option.isSome := by
  rw [first, List.isSome_findSome?, (l.perm found).any_eq]
  rfl

theorem mem_of_first {l : Listing} {found : List (Option α)} {a : α} (h : l.first found = some a) :
    some a ∈ found := by
  obtain ⟨_, hx, rfl⟩ := List.exists_of_findSome?_eq_some h
  exact (l.perm found).mem_iff.mp hx

end Listing

namespace FieldType

def firstItemBy (check : Nat → Json → Option Misfit) (i : Nat) : List Json → Option Misfit
  | [] => none
  | v :: vs =>
    match check i v with
    | some m => some (m.under (.element i))
    | none => firstItemBy check (i + 1) vs

mutual

/-- What a check finds that goes through the declared fields of each place in its own order. -/
def misfitBy (order : List Descent → Listing) (t : FieldType) (v : Json) : Option Misfit :=
  match complaint t v with
  | some c => some ⟨[], c⟩
  | none =>
    match t with
    | .array element =>
      match v with
      | .arr vs =>
        firstItemBy (fun i => element.misfitBy fun path => order (.element i :: path)) 0 vs
      | _ => none
    | .object fields =>
      match v with
      | .obj vs =>
        ((order []).first (foundBy order fields vs)).map fun f => f.2.under (.field f.1)
      | _ => none
    | _ => none

/-- What there is to be found at the declared fields, each with its name. A check has no effect, so
it makes no difference that none is made behind the first that finds something. -/
def foundBy (order : List Descent → Listing) (fields : List (String × FieldType))
    (vs : List (String × Json)) : List (Option (String × Misfit)) :=
  match fields with
  | [] => []
  | (k, t) :: fields =>
    ((find? k vs).bind (t.misfitBy fun path => order (.field k :: path))).map (k, ·) ::
      foundBy order fields vs

end

theorem firstItemBy_const (check : Json → Option Misfit) (i : Nat) (vs : List Json) :
    firstItemBy (fun _ => check) i vs = firstItem check i vs := by
  induction vs generalizing i with
  | nil => rfl
  | cons v vs ih =>
    rw [firstItemBy, firstItem]
    cases check v with
    | none => exact ih (i + 1)
    | some m => rfl

theorem firstItemBy_isSome {f g : Nat → Json → Option Misfit}
    (h : ∀ i v, (f i v).isSome = (g i v).isSome) (i : Nat) (vs : List Json) :
    (firstItemBy f i vs).isSome = (firstItemBy g i vs).isSome := by
  induction vs generalizing i with
  | nil => rfl
  | cons v vs ih =>
    have hv := h i v
    rw [firstItemBy, firstItemBy]
    cases hf : f i v <;> cases hg : g i v <;> rw [hf, hg] at hv
    · exact ih (i + 1)
    · cases hv
    · cases hv
    · rfl

theorem firstItemBy_eq_some {f : Nat → Json → Option Misfit} {i : Nat} {vs : List Json} {m : Misfit}
    (h : firstItemBy f i vs = some m) :
    ∃ us v ws m', vs = us ++ v :: ws ∧ (∀ u ∈ us, ∃ j, f j u = none) ∧
      f (i + us.length) v = some m' ∧ m = m'.under (.element (i + us.length)) := by
  induction vs generalizing i with
  | nil => cases h
  | cons v vs ih =>
    rw [firstItemBy] at h
    split at h
    · rename_i m' hm
      exact ⟨[], v, vs, m', rfl, by simp, hm, (Option.some.inj h).symm⟩
    · rename_i hv
      obtain ⟨us, u, ws, m', rfl, hu, hm, rfl⟩ := ih h
      have hi : i + 1 + us.length = i + (v :: us).length := Nat.succ_add_eq_add_succ i us.length
      rw [hi] at hm ⊢
      exact ⟨v :: us, u, ws, m', rfl, List.forall_mem_cons.mpr ⟨⟨i, hv⟩, hu⟩, hm, rfl⟩

theorem misfitBy_complaint {order : List Descent → Listing} {t : FieldType} {v : Json}
    {c : Complaint} (hc : t.complaint v = some c) : t.misfitBy order v = some ⟨[], c⟩ := by
  cases t <;> cases v <;> simp only [misfitBy, hc]

theorem misfitBy_flat (order : List Descent → Listing) {t : FieldType} (v : Json)
    (ha : ∀ element, t ≠ .array element) (ho : ∀ fields, t ≠ .object fields) :
    t.misfitBy order v = t.misfit? v := by
  cases hc : t.complaint v <;> cases t with
  | array element => exact absurd rfl (ha element)
  | object fields => exact absurd rfl (ho fields)
  | _ => simp only [misfitBy, misfit?, hc]

mutual

theorem misfitBy_table (t : FieldType) (v : Json) :
    t.misfitBy (fun _ => .table) v = t.misfit? v := by
  match t with
  | .array element =>
    have he : (element.misfitBy fun _ => .table) = element.misfit? :=
      funext fun v => misfitBy_table element v
    cases v with
    | arr vs => simp only [misfitBy, misfit?, complaint, he, firstItemBy_const]
    | _ => simp only [misfitBy, misfit?, complaint]
  | .object fields =>
    cases v with
    | obj vs => simp only [misfitBy, misfit?, complaint, first_foundBy_table fields vs]
    | _ => simp only [misfitBy, misfit?, complaint]
  | .number | .string | .bool | .vec2 | .vec3 | .quaternion | .color | .entity | .any =>
    exact misfitBy_flat _ v nofun nofun

theorem first_foundBy_table (fields : List (String × FieldType)) (vs : List (String × Json)) :
    (Listing.table.first (foundBy (fun _ => .table) fields vs)).map
      (fun f => f.2.under (.field f.1)) = misfitFields? fields vs := by
  match fields with
  | [] => rw [foundBy, misfitFields?]; rfl
  | (k, t) :: fields =>
    have ht : (t.misfitBy fun _ => .table) = t.misfit? := funext fun v => misfitBy_table t v
    have ih := first_foundBy_table fields vs
    rw [foundBy, misfitFields?, ht]
    cases (find? k vs).bind t.misfit? with
    | some m => rfl
    | none => exact ih

end

mutual

theorem misfitBy_isSome (f g : List Descent → Listing) (t : FieldType) (v : Json) :
    (t.misfitBy f v).isSome = (t.misfitBy g v).isSome := by
  match t with
  | .array element =>
    cases v with
    | arr vs =>
      simp only [misfitBy, complaint]
      exact firstItemBy_isSome (fun i v => misfitBy_isSome _ _ element v) 0 vs
    | _ => simp only [misfitBy, complaint]
  | .object fields =>
    cases v with
    | obj vs =>
      simp only [misfitBy, complaint, Option.isSome_map, Listing.first_isSome]
      exact foundBy_any f g fields vs
    | _ => simp only [misfitBy, complaint]
  | .number | .string | .bool | .vec2 | .vec3 | .quaternion | .color | .entity | .any =>
    exact congrArg Option.isSome
      (Eq.trans (misfitBy_flat f v nofun nofun) (Eq.symm (misfitBy_flat g v nofun nofun)))

theorem foundBy_any (f g : List Descent → Listing) (fields : List (String × FieldType))
    (vs : List (String × Json)) :
    (foundBy f fields vs).any Option.isSome = (foundBy g fields vs).any Option.isSome := by
  match fields with
  | [] => rw [foundBy, foundBy]
  | (k, t) :: fields =>
    rw [foundBy, foundBy, List.any_cons, List.any_cons, foundBy_any f g fields vs,
      Option.isSome_map, Option.isSome_map]
    cases find? k vs with
    | none => rfl
    | some v => exact congrArg (· || _) (misfitBy_isSome _ _ t v)

end

/-- What a check may find first. Only at the fields of an object is there anything to choose. -/
inductive Finds : FieldType → Json → Misfit → Prop
  | here {t : FieldType} {v : Json} {c : Complaint} (h : t.complaint v = some c) :
      Finds t v ⟨[], c⟩
  | element {t : FieldType} {us : List Json} {v : Json} {ws : List Json} {m : Misfit}
      (hu : ∀ u ∈ us, t.misfit? u = none) (hm : Finds t v m) :
      Finds (.array t) (.arr (us ++ v :: ws)) (m.under (.element us.length))
  | field {fields : List (String × FieldType)} {vs : List (String × Json)} {k : String}
      {t : FieldType} {v : Json} {m : Misfit} (hk : (k, t) ∈ fields) (hv : find? k vs = some v)
      (hm : Finds t v m) : Finds (.object fields) (.obj vs) (m.under (.field k))

theorem misfitBy_none {order : List Descent → Listing} {t : FieldType} {v : Json}
    (h : t.misfitBy order v = none) : t.misfit? v = none := by
  rw [← misfitBy_table, ← Option.not_isSome_iff_eq_none, misfitBy_isSome _ order, h]
  exact Bool.false_ne_true

mutual

theorem Finds.of_misfitBy {order : List Descent → Listing} {t : FieldType} {v : Json} {m : Misfit}
    (h : t.misfitBy order v = some m) : t.Finds v m := by
  cases hc : t.complaint v with
  | some c =>
    rw [misfitBy_complaint hc] at h
    obtain rfl := Option.some.inj h
    exact .here hc
  | none =>
    match t with
    | .array element =>
      cases v with
      | arr vs =>
        simp only [misfitBy, complaint] at h
        obtain ⟨us, v, ws, m', rfl, hu, hm, rfl⟩ := firstItemBy_eq_some h
        rw [Nat.zero_add]
        exact .element (fun u hu' => (hu u hu').elim fun _ => misfitBy_none) (.of_misfitBy hm)
      | _ => cases hc
    | .object fields =>
      cases v with
      | obj vs =>
        simp only [misfitBy, complaint] at h
        obtain ⟨⟨k, m'⟩, hf, rfl⟩ := Option.map_eq_some_iff.mp h
        obtain ⟨t, v, ht, hv, hm⟩ := mem_foundBy (Listing.mem_of_first hf)
        exact .field ht hv hm
      | _ => cases hc
    | .number | .string | .bool | .vec2 | .vec3 | .quaternion | .color | .entity | .any =>
      simp [misfitBy, hc] at h

theorem mem_foundBy {order : List Descent → Listing} {fields : List (String × FieldType)}
    {vs : List (String × Json)} {k : String} {m : Misfit}
    (h : some (k, m) ∈ foundBy order fields vs) :
    ∃ t v, (k, t) ∈ fields ∧ find? k vs = some v ∧ t.Finds v m := by
  match fields with
  | [] =>
    rw [foundBy] at h
    cases h
  | (l, t) :: fields =>
    rw [foundBy] at h
    obtain h | h := List.mem_cons.mp h
    · obtain ⟨m', hm, he⟩ := Option.map_eq_some_iff.mp h.symm
      obtain ⟨v, hv, hm⟩ := Option.bind_eq_some_iff.mp hm
      obtain ⟨rfl, rfl⟩ := Prod.mk.inj he
      exact ⟨t, v, .head _, hv, .of_misfitBy hm⟩
    · obtain ⟨t, v, ht, hv, hm⟩ := mem_foundBy h
      exact ⟨t, v, .tail _ ht, hv, hm⟩

end

end FieldType

namespace ComponentType

def faultBy (order : List Descent → Listing) (t : ComponentType) (v : Json) : Option TypeFault :=
  if t.fields.isEmpty then none
  else
    match v with
    | .obj vs =>
      ((order []).first (FieldType.foundBy order t.fields vs)).map fun f => .field t.name f.1 f.2
    | _ => some (.notObject t.name)

/-- What a check of a component may find first. -/
inductive Finds (t : ComponentType) : Json → TypeFault → Prop
  | notObject {v : Json} (hv : ∀ vs, v ≠ .obj vs) : Finds t v (.notObject t.name)
  | field {vs : List (String × Json)} {k : String} {type : FieldType} {v : Json} {m : Misfit}
      (hk : (k, type) ∈ t.fields) (hv : find? k vs = some v) (hm : type.Finds v m) :
      Finds t (.obj vs) (.field t.name k m)

theorem faultBy_table (t : ComponentType) (v : Json) :
    t.faultBy (fun _ => .table) v = t.fault? v := by
  have along (vs : List (String × Json)) (fields : List (String × FieldType)) :
      (Listing.table.first (FieldType.foundBy (fun _ => .table) fields vs)).map
        (fun f => .field t.name f.1 f.2) = faultFields? t.name vs fields := by
    induction fields with
    | nil => rw [FieldType.foundBy, faultFields?]; rfl
    | cons f fields ih =>
      have ht : (f.2.misfitBy fun _ => .table) = f.2.misfit? := funext f.2.misfitBy_table
      rw [FieldType.foundBy, faultFields?, ht]
      cases (find? f.1 vs).bind f.2.misfit? with
      | some m => rfl
      | none => exact ih
  unfold faultBy fault?
  split
  · rfl
  · cases v with
    | obj vs => exact along vs t.fields
    | _ => rfl

theorem faultBy_isSome (f g : List Descent → Listing) (t : ComponentType) (v : Json) :
    (t.faultBy f v).isSome = (t.faultBy g v).isSome := by
  unfold faultBy
  split
  · rfl
  · split
    · rw [Option.isSome_map, Option.isSome_map, Listing.first_isSome, Listing.first_isSome]
      exact FieldType.foundBy_any f g t.fields _
    · rfl

theorem Finds.of_faultBy {order : List Descent → Listing} {t : ComponentType} {v : Json}
    {x : TypeFault} (h : t.faultBy order v = some x) : t.Finds v x := by
  unfold faultBy at h
  split at h
  · cases h
  · split at h
    · obtain ⟨⟨k, m⟩, hf, rfl⟩ := Option.map_eq_some_iff.mp h
      obtain ⟨type, v, hk, hv, hm⟩ := FieldType.mem_foundBy (Listing.mem_of_first hf)
      exact .field hk hv hm
    · rename_i hv
      obtain rfl := Option.some.inj h
      exact .notObject hv

end ComponentType

/-- A value has several bad fields, and a check of it may find one or the other first. -/
def Reworded (v : Json) (x x' : TypeFault) : Prop :=
  x ≠ x' ∧ ∃ t : ComponentType, t.Finds v x ∧ t.Finds v x'

def Registry.checkBy (order : List Descent → Listing) (r : Registry) (component : String)
    (v : Json) : Except Failure Unit :=
  match r.get? component with
  | none => .error (.unknownType component)
  | some t =>
    match t.faultBy order v with
    | some fault => .error (.invalidValue component fault)
    | none => .ok ()

namespace Registry

theorem checkBy_table (r : Registry) (c : String) (v : Json) :
    r.checkBy (fun _ => .table) c v = r.check c v := by
  cases ht : r.get? c with
  | none => simp only [checkBy, check, ht]
  | some t =>
    have hf := t.faultBy_table v
    cases hx : t.fault? v <;> simp only [checkBy, check, ht, hf, hx]

theorem checkBy_alike (f g : List Descent → Listing) (r : Registry) (c : String) (v : Json) :
    r.checkBy f c v = r.checkBy g c v ∨ ∃ x x', Reworded v x x' ∧
      r.checkBy f c v = .error (.invalidValue c x) ∧
        r.checkBy g c v = .error (.invalidValue c x') := by
  rw [checkBy, checkBy]
  split
  · exact .inl rfl
  · rename_i t _
    have hs := t.faultBy_isSome f g v
    cases hf : t.faultBy f v with
    | none =>
      rw [hf] at hs
      cases hg : t.faultBy g v with
      | none => exact .inl rfl
      | some x' => rw [hg] at hs; cases hs
    | some x =>
      rw [hf] at hs
      cases hg : t.faultBy g v with
      | none => rw [hg] at hs; cases hs
      | some x' =>
        by_cases hx : x = x'
        · exact .inl (by rw [hx])
        · exact .inr ⟨x, x', ⟨hx, t, .of_faultBy hf, .of_faultBy hg⟩, rfl, rfl⟩

end Registry

end Diorama
