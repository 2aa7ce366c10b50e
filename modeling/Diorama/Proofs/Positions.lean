import Diorama.Proofs.Listings

namespace Diorama

def Json.HasNumbers (names : List String) (v : Json) : Prop :=
  ∃ fs, v = .obj fs ∧ ∀ k ∈ names, ∃ n, find? k fs = some (.num n)

namespace FieldType

/-- The way from a value down to a part of it, and the type that the part has to be of. -/
inductive Leads : FieldType → Json → List Descent → FieldType → Json → Prop
  | here (t : FieldType) (v : Json) : Leads t v [] t v
  | element {t : FieldType} {vs : List Json} {i : Nat} {v : Json} {path : List Descent}
      {s : FieldType} {x : Json} (hi : vs[i]? = some v) (h : Leads t v path s x) :
      Leads (.array t) (.arr vs) (.element i :: path) s x
  | field {fields : List (String × FieldType)} {vs : List (String × Json)} {k : String}
      {t : FieldType} {v : Json} {path : List Descent} {s : FieldType} {x : Json}
      (hk : (k, t) ∈ fields) (hv : find? k vs = some v) (h : Leads t v path s x) :
      Leads (.object fields) (.obj vs) (.field k :: path) s x

/-- What a type wants of a value by itself, whatever is in it. -/
def Meets : FieldType → Json → Prop
  | .number, v => ∃ n, v = .num n
  | .string, v => ∃ s, v = .str s
  | .bool, v => ∃ b, v = .bool b
  | .vec2, v => v.HasNumbers ["x", "y"]
  | .vec3, v => v.HasNumbers ["x", "y", "z"]
  | .quaternion, v => v.HasNumbers ["x", "y", "z", "w"]
  | .color, v =>
    (∃ s, v = .str s ∧ s.toList.head? = some '#' ∧ (s.utf8ByteSize = 7 ∨ s.utf8ByteSize = 9)) ∨
      ∃ fs, v = .obj fs ∧ ∀ k ∈ ["r", "g", "b"], ∃ x, find? k fs = some x
  | .entity, v => ∃ i, v = .num (.int i) ∧ 0 ≤ i.val
  | .array _, v => ∃ vs, v = .arr vs
  | .object _, v => ∃ fs, v = .obj fs
  | .any, _ => True

theorem numbersComplaint_eq_none {names : List String} {v : Json} :
    numbersComplaint names v = none ↔ v.HasNumbers names := by
  cases v with
  | obj fs =>
    simp only [numbersComplaint, Json.HasNumbers, List.findSome?_eq_none_iff, Json.obj.injEq,
      exists_eq_left']
    refine forall₂_congr fun k _ => ?_
    cases find? k fs with
    | none => simp
    | some x => cases x <;> simp
  | _ => simp [numbersComplaint, Json.HasNumbers]

theorem colorComplaint_eq_none {v : Json} : colorComplaint v = none ↔ Meets .color v := by
  cases v with
  | str s =>
    simp only [colorComplaint, Meets, Json.str.injEq, exists_eq_left', reduceCtorEq, false_and,
      exists_false, or_false, ite_eq_left_iff, imp_false, Decidable.not_not]
  | obj fs =>
    simp only [colorComplaint, Meets, reduceCtorEq, false_and, exists_false, false_or,
      Json.obj.injEq, exists_eq_left', ite_eq_left_iff, imp_false, Classical.not_not,
      List.all_eq_true, Option.isSome_iff_exists]
  | _ => simp [colorComplaint, Meets]

theorem complaint_eq_none {t : FieldType} {v : Json} : t.complaint v = none ↔ t.Meets v := by
  cases t with
  | vec2 | vec3 | quaternion => cases v <;> simp only [complaint, numbersComplaint_eq_none, Meets]
  | color => cases v <;> simp only [complaint, colorComplaint_eq_none]
  | entity =>
    have hn : complaint .entity v = none ↔ v.nat?.isSome = true := by
      cases v <;> simp only [complaint, ite_eq_left_iff, reduceCtorEq, imp_false, Decidable.not_not]
    rw [hn]
    cases v with
    | num n =>
      cases n with
      | int i => simp [Json.nat?, Number.toNat?, Integer.toNat?, Meets]
      | float x => simp [Json.nat?, Number.toNat?, Meets]
    | _ => simp [Json.nat?, Meets]
  | _ => cases v <;> simp [complaint, Meets]

theorem firstItem_eq_none {check : Json → Option Misfit} {i : Nat} {vs : List Json} :
    firstItem check i vs = none ↔ ∀ v ∈ vs, check v = none := by
  induction vs generalizing i with
  | nil => simp [firstItem]
  | cons v vs ih =>
    rw [firstItem, List.forall_mem_cons]
    cases check v with
    | none => simpa using ih
    | some m => simp

theorem misfit?_array {t : FieldType} {vs : List Json} :
    (array t).misfit? (.arr vs) = none ↔ ∀ v ∈ vs, t.misfit? v = none := by
  simp only [misfit?, complaint, firstItem_eq_none]

theorem misfitFields?_eq_none {fields : List (String × FieldType)} {vs : List (String × Json)} :
    misfitFields? fields vs = none ↔
      ∀ k t, (k, t) ∈ fields → ∀ v, find? k vs = some v → t.misfit? v = none := by
  induction fields with
  | nil => simp [misfitFields?]
  | cons f fields ih =>
    obtain ⟨l, u⟩ := f
    have hf : (find? l vs).bind u.misfit? = none ↔
        ∀ v, find? l vs = some v → u.misfit? v = none := Option.bind_eq_none_iff
    rw [misfitFields?]
    constructor
    · intro h k t hk
      cases hl : (find? l vs).bind u.misfit? with
      | some m =>
        rw [hl] at h
        cases h
      | none =>
        rw [hl] at h
        obtain he | hk := List.mem_cons.mp hk
        · obtain ⟨rfl, rfl⟩ := Prod.mk.inj he
          exact hf.mp hl
        · exact ih.mp h k t hk
    · intro h
      rw [hf.mpr (h l u (.head _))]
      exact ih.mpr fun k t hk => h k t (.tail _ hk)

theorem misfit?_object {fields : List (String × FieldType)} {vs : List (String × Json)} :
    (object fields).misfit? (.obj vs) = none ↔
      ∀ k t, (k, t) ∈ fields → ∀ v, find? k vs = some v → t.misfit? v = none := by
  simp only [misfit?, complaint, misfitFields?_eq_none]

theorem misfit?_complaint {t : FieldType} {v : Json} {c : Complaint}
    (hc : t.complaint v = some c) : t.misfit? v = some ⟨[], c⟩ := by
  cases t <;> cases v <;> simp only [misfit?, hc]

theorem Leads.passes {t s : FieldType} {v x : Json} {path : List Descent} (h : Leads t v path s x)
    (hv : t.misfit? v = none) : s.misfit? x = none := by
  induction h with
  | here t v => exact hv
  | element hi _ ih => exact ih (misfit?_array.mp hv _ (List.mem_of_getElem? hi))
  | field hk hx _ ih => exact ih (misfit?_object.mp hv _ _ hk _ hx)

theorem misfit?_meets {t : FieldType} {v : Json} (hv : t.misfit? v = none) : t.Meets v := by
  refine complaint_eq_none.mp ?_
  cases hc : t.complaint v with
  | none => rfl
  | some c =>
    rw [misfit?_complaint hc] at hv
    cases hv

theorem Finds.rejected {t : FieldType} {v : Json} {m : Misfit} (h : t.Finds v m) :
    t.misfit? v ≠ none := by
  induction h with
  | here hc =>
    rw [misfit?_complaint hc]
    exact Option.some_ne_none _
  | element _ _ ih => exact fun hn => ih (misfit?_array.mp hn _ (by simp))
  | field hk hv _ ih => exact fun hn => ih (misfit?_object.mp hn _ _ hk _ hv)

theorem Finds.leads {t : FieldType} {v : Json} {m : Misfit} (h : t.Finds v m) :
    ∃ s x, Leads t v m.path s x ∧ s.complaint x = some m.complaint := by
  induction h with
  | @here t v c hc => exact ⟨t, v, .here t v, hc⟩
  | @element t us v ws m _ _ ih =>
    obtain ⟨s, x, hl, hc⟩ := ih
    exact ⟨s, x, .element (by simp) hl, hc⟩
  | field hk hv _ ih =>
    obtain ⟨s, x, hl, hc⟩ := ih
    exact ⟨s, x, .field hk hv hl, hc⟩

def LeadsFirst (t : FieldType) (v : Json) (path : List Descent) (i : Nat) : Prop :=
  ∃ element vs u, Leads t v path (.array element) (.arr vs) ∧ vs[i]? = some u ∧
    element.misfit? u ≠ none ∧ ∀ j < i, ∀ w, vs[j]? = some w → element.misfit? w = none

theorem Finds.leadsFirst {t : FieldType} {v : Json} {m : Misfit} (h : t.Finds v m)
    {above below : List Descent} {i : Nat} (hp : m.path = above ++ .element i :: below) :
    LeadsFirst t v above i := by
  induction h generalizing above with
  | here hc => exact absurd hp (by simp)
  | @element t us v ws m hu hm ih =>
    cases above with
    | nil =>
      obtain ⟨hi, -⟩ := List.cons.inj hp
      obtain rfl := Descent.element.inj hi
      refine ⟨t, us ++ v :: ws, v, .here _ _, by simp, hm.rejected, fun j hj w hw => ?_⟩
      rw [List.getElem?_append_left hj] at hw
      exact hu w (List.mem_of_getElem? hw)
    | cons d above =>
      obtain ⟨rfl, hb⟩ := List.cons.inj hp
      obtain ⟨element, vs, u, hl, hr⟩ := ih hb
      exact ⟨element, vs, u, .element (by simp) hl, hr⟩
  | @field fields vs k t v m hk hv hm ih =>
    cases above with
    | nil =>
      obtain ⟨hi, -⟩ := List.cons.inj hp
      cases hi
    | cons d above =>
      obtain ⟨rfl, hb⟩ := List.cons.inj hp
      obtain ⟨element, vs, u, hl, hr⟩ := ih hb
      exact ⟨element, vs, u, .field hk hv hl, hr⟩

/-- A misfit tells of a part of a value that is not as its type wants it, in the words that are
right for the part by itself behind the way to it. Of the elements of an array it is the first. -/
structure Tells (t : FieldType) (v : Json) (m : Misfit) : Prop where
  fault : ∃ s x own, Leads t v m.path s x ∧ ¬ s.Meets x ∧ s.misfit? x = some own ∧ own.path = [] ∧
    m.message = String.join (m.path.map fun
      | .element i => s!"element [{i}]: "
      | .field name => s!"field '{name}': ") ++ own.message
  first (above below : List Descent) (i : Nat) : m.path = above ++ .element i :: below →
    LeadsFirst t v above i

theorem Finds.tells {t : FieldType} {v : Json} {m : Misfit} (h : t.Finds v m) : t.Tells v m := by
  refine ⟨?_, fun _ _ _ => h.leadsFirst⟩
  obtain ⟨s, x, hl, hc⟩ := h.leads
  refine ⟨s, x, ⟨[], m.complaint⟩, hl, fun hm => ?_, misfit?_complaint hc, rfl, ?_⟩
  · rw [complaint_eq_none.mpr hm] at hc
    cases hc
  · refine congrArg (String.join · ++ _) (List.map_congr_left fun d _ => ?_)
    cases d <;> rfl

theorem misfitBy_eq_none {order : List Descent → Listing} {t : FieldType} {v : Json} :
    t.misfitBy order v = none ↔ t.misfit? v = none := by
  rw [← Option.not_isSome_iff_eq_none, ← Option.not_isSome_iff_eq_none,
    misfitBy_isSome order (fun _ => .table), misfitBy_table]

theorem passes_iff {t : FieldType} {v : Json} :
    t.misfit? v = none ↔ ∀ path s x, Leads t v path s x → s.Meets x := by
  constructor
  · exact fun hv path s x hl => misfit?_meets (hl.passes hv)
  · intro h
    cases hm : t.misfit? v with
    | none => rfl
    | some m =>
      rw [← misfitBy_table] at hm
      obtain ⟨s, x, _, hl, hn, _⟩ := (Finds.of_misfitBy hm).tells.fault
      exact absurd (h _ s x hl) hn

theorem foundBy_congr (order : List Descent → Listing) {fields : List (String × FieldType)}
    {vs ws : List (String × Json)} (h : ∀ f ∈ fields, find? f.1 vs = find? f.1 ws) :
    foundBy order fields vs = foundBy order fields ws := by
  induction fields with
  | nil => rw [foundBy, foundBy]
  | cons f fields ih =>
    obtain ⟨hf, hs⟩ := List.forall_mem_cons.mp h
    rw [foundBy, foundBy, hf, ih hs]

end FieldType

namespace ComponentType

/-- What a check tells of a component: that it is no object, or else which of its declared fields is
not as its type wants it, and why. -/
def Tells (t : ComponentType) (v : Json) (x : TypeFault) : Prop :=
  (∀ vs, v ≠ .obj vs) ∧ x.message = s!"Component '{t.name}' data must be an object" ∨
    ∃ vs k type u m, v = .obj vs ∧ (k, type) ∈ t.fields ∧ find? k vs = some u ∧ type.Tells u m ∧
      x.message = s!"Component '{t.name}' field '{k}': {m.message}"

theorem Finds.tells {t : ComponentType} {v : Json} {x : TypeFault} (h : t.Finds v x) :
    t.Tells v x := by
  cases h with
  | notObject hv => exact .inl ⟨hv, rfl⟩
  | field hk hv hm => exact .inr ⟨_, _, _, _, _, rfl, hk, hv, hm.tells, rfl⟩

theorem faultBy_eq_none {order : List Descent → Listing} {t : ComponentType} {v : Json} :
    t.faultBy order v = none ↔
      t.fields = [] ∨ (FieldType.object t.fields).misfitBy order v = none := by
  unfold faultBy
  by_cases he : t.fields = []
  · simp [he]
  · rw [if_neg (by simpa using he), or_iff_right he]
    cases v <;> simp [FieldType.misfitBy, FieldType.complaint]

end ComponentType

/-- A check passes just if every part that it leads to is by itself as its type wants it, whatever
the order in which it goes through declared fields. One that does not pass tells of a part that is
not. A component is checked like an object of its fields, unless none is declared, and fields that
are not declared make no difference. -/
theorem checks_reach_every_part (order : List Descent → Listing) :
    (∀ (t : FieldType) v,
      (t.misfitBy order v = none ↔ ∀ path s x, FieldType.Leads t v path s x → s.Meets x) ∧
      (∀ m, t.misfitBy order v = some m → t.Tells v m) ∧
      t.misfitBy (fun _ => .table) v = t.misfit? v) ∧
    (∀ (t : ComponentType) v,
      (t.faultBy order v = none ↔ t.fields = [] ∨
        ∀ path s x, FieldType.Leads (.object t.fields) v path s x → s.Meets x) ∧
      (∀ x, t.faultBy order v = some x → t.Tells v x) ∧
      t.faultBy (fun _ => .table) v = t.fault? v) ∧
    ∀ (t : ComponentType) vs ws, (∀ f ∈ t.fields, find? f.1 vs = find? f.1 ws) →
      (FieldType.object t.fields).misfitBy order (.obj vs) =
        (FieldType.object t.fields).misfitBy order (.obj ws) ∧
      t.faultBy order (.obj vs) = t.faultBy order (.obj ws) := by
  refine ⟨fun t v => ⟨?_, fun m hm => (FieldType.Finds.of_misfitBy hm).tells, t.misfitBy_table v⟩,
    fun t v => ⟨?_, fun x hx => (ComponentType.Finds.of_faultBy hx).tells, t.faultBy_table v⟩,
    fun t vs ws h => ?_⟩
  · rw [FieldType.misfitBy_eq_none, FieldType.passes_iff]
  · rw [ComponentType.faultBy_eq_none, FieldType.misfitBy_eq_none, FieldType.passes_iff]
  · have hf := FieldType.foundBy_congr order h
    simp only [FieldType.misfitBy, FieldType.complaint, ComponentType.faultBy, hf, and_self]

/-- Of two elements the first passes, though it has a field that is not declared. The second has two
bad fields, and a check that goes through declared fields in reverse tells of the other one. -/
theorem checks_reach_every_part_reversed :
    let t : ComponentType := ⟨"Path", [("points", .array
      (.object [("at", .vec2), ("color", .color)]))], none⟩
    let zero : Json := .num (.int ⟨0, by decide, by decide⟩)
    let v : Json := .obj [("points", .arr [
      .obj [("at", .obj [("x", zero), ("y", zero)]), ("note", .null)],
      .obj [("at", .obj [("x", zero)]), ("color", .str "red")]])]
    let x : TypeFault := .field "Path" "points"
      ⟨[.element 1, .field "at"], .missingNumbers ["x", "y"]⟩
    let y : TypeFault := .field "Path" "points" ⟨[.element 1, .field "color"], .notHex⟩
    t.fault? v = some x ∧ t.Tells v x ∧
      x.message = "Component 'Path' field 'points': element [1]: field 'at': " ++
        "expected an object with x, y fields" ∧
      t.faultBy (fun _ => .reversed) v = some y ∧ t.Tells v y ∧
      y.message = "Component 'Path' field 'points': element [1]: field 'color': " ++
        "expected a hex color string (#RRGGBB or #RRGGBBAA)" := by
  intro t zero v x y
  have tells (order : List Descent → Listing) := ((checks_reach_every_part order).2.1 t v).2.1
  have hx : t.faultBy (fun _ => .table) v = some x := by decide +kernel
  have hy : t.faultBy (fun _ => .reversed) v = some y := by decide +kernel
  have table := ((checks_reach_every_part fun _ => .table).2.1 t v).2.2
  exact ⟨table.symm.trans hx, tells _ x hx, by decide +kernel, hy, tells _ y hy, by decide +kernel⟩

end Diorama
