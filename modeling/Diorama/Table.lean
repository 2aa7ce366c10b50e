/-!
Tables: finite maps kept as the list of their entries in ascending key order, so that two tables
with the same look-ups are equal. Main statements: `get?_insert`, `get?_erase`, `ext_get?`.
-/

namespace Diorama

variable {κ α : Type} [DecidableEq κ]

def find? (k : κ) : List (κ × α) → Option α
  | [] => none
  | (l, a) :: es => if l = k then some a else find? k es

def drop (k : κ) (es : List (κ × α)) : List (κ × α) := es.filter (·.1 ≠ k)

theorem find?_drop {k : κ} {es : List (κ × α)} (j : κ) :
    find? j (drop k es) = if k = j then none else find? j es := by
  induction es with
  | nil => simp [drop, find?]
  | cons x es ih =>
    obtain ⟨l, b⟩ := x
    simp only [drop] at ih ⊢
    by_cases hl : l = k
    · subst hl
      by_cases h : l = j <;> simp_all [find?]
    · by_cases h : l = j
      · subst h
        simp [find?, hl, Ne.symm hl]
      · simp_all [find?]

theorem find?_eq_none {k : κ} {es : List (κ × α)} :
    find? k es = none ↔ ∀ e ∈ es, e.1 ≠ k := by
  induction es with
  | nil => simp [find?]
  | cons x es ih => by_cases h : x.1 = k <;> simp_all [find?]

variable [LT κ]

section
variable [DecidableLT κ]

def put (k : κ) (a : α) : List (κ × α) → List (κ × α)
  | [] => [(k, a)]
  | (l, b) :: es =>
    if k < l then (k, a) :: (l, b) :: es
    else if k = l then (k, a) :: es
    else (l, b) :: put k a es

theorem find?_put {k : κ} {a : α} {es : List (κ × α)} (j : κ) :
    find? j (put k a es) = if k = j then some a else find? j es := by
  induction es with
  | nil => simp [put, find?]
  | cons x es ih =>
    obtain ⟨l, b⟩ := x
    simp only [put]
    split
    · simp [find?]
    · split
      · rename_i hk
        subst hk
        by_cases h : k = j <;> simp [find?, h]
      · rename_i hne
        by_cases h : k = j
        · subst h
          simp only [find?, ih]
          simp [Ne.symm hne]
        · simp [find?, ih, h]

theorem mem_put {k : κ} {a : α} {es : List (κ × α)} {e : κ × α} (h : e ∈ put k a es) :
    e = (k, a) ∨ e ∈ es := by
  induction es with
  | nil => simp_all [put]
  | cons x es ih =>
    obtain ⟨l, b⟩ := x
    simp only [put] at h
    split at h
    · simpa using h
    · split at h
      · simp only [List.mem_cons] at h ⊢
        exact h.imp_right .inr
      · simp only [List.mem_cons] at h ⊢
        rcases h with h | h
        · exact .inr (.inl h)
        · exact (ih h).imp_right .inr

end

/-- A finite map as its entries in ascending key order. -/
structure Table (κ α : Type) [LT κ] where
  entries : List (κ × α)
  ordered : entries.Pairwise (·.1 < ·.1)

namespace Table

instance : EmptyCollection (Table κ α) := ⟨⟨[], .nil⟩⟩
instance : Inhabited (Table κ α) := ⟨∅⟩

def keys (t : Table κ α) : List κ := t.entries.map (·.1)

def values (t : Table κ α) : List α := t.entries.map (·.2)

def size (t : Table κ α) : Nat := t.entries.length

def isEmpty (t : Table κ α) : Bool := t.entries.isEmpty

def get? (t : Table κ α) (k : κ) : Option α := find? k t.entries

def contains (t : Table κ α) (k : κ) : Bool := (t.get? k).isSome

def erase (t : Table κ α) (k : κ) : Table κ α := ⟨drop k t.entries, t.ordered.filter _⟩

@[simp] theorem get?_empty (k : κ) : (∅ : Table κ α).get? k = none := rfl

@[simp] theorem get?_erase (t : Table κ α) (k j : κ) :
    (t.erase k).get? j = if k = j then none else t.get? j := find?_drop j

theorem mem_keys {t : Table κ α} {k : κ} : k ∈ t.keys ↔ t.contains k := by
  rw [← Decidable.not_iff_not, contains, Bool.not_eq_true, Option.isSome_eq_false_iff,
    Option.isNone_iff_eq_none, get?, find?_eq_none]
  simp only [keys, List.mem_map, not_exists, not_and]

end Table

variable [LE κ] [Std.LawfulOrderLT κ]

namespace Table

theorem find?_eq_some {es : List (κ × α)} (h : es.Pairwise (·.1 < ·.1)) {k : κ}
    {a : α} : find? k es = some a ↔ (k, a) ∈ es := by
  induction es with
  | nil => simp [find?]
  | cons x es ih =>
    obtain ⟨l, b⟩ := x
    rw [List.pairwise_cons] at h
    by_cases hl : l = k
    · subst hl
      simp only [find?, if_true, Option.some.injEq, List.mem_cons, Prod.mk.injEq, true_and]
      refine ⟨fun e => .inl e.symm, fun e => e.elim Eq.symm fun he => ?_⟩
      exact absurd (h.1 _ he) Std.lt_irrefl
    · simp [find?, hl, ih h.2, Ne.symm hl]

theorem get?_eq_some {t : Table κ α} {k : κ} {a : α} : t.get? k = some a ↔ (k, a) ∈ t.entries :=
  find?_eq_some t.ordered

end Table

variable [Std.IsLinearOrder κ]

theorem put_pairwise [DecidableLT κ] {k : κ} {a : α} {es : List (κ × α)}
    (h : es.Pairwise (·.1 < ·.1)) : (put k a es).Pairwise (·.1 < ·.1) := by
  induction es with
  | nil => simp [put]
  | cons x es ih =>
    obtain ⟨l, b⟩ := x
    rw [List.pairwise_cons] at h
    simp only [put]
    split
    · rename_i hk
      refine List.pairwise_cons.2 ⟨fun e he => ?_, List.pairwise_cons.2 h⟩
      rcases List.mem_cons.1 he with rfl | he
      · exact hk
      · exact Std.lt_trans hk (h.1 e he)
    · split
      · rename_i hk
        subst hk
        exact List.pairwise_cons.2 h
      · rename_i hk hne
        refine List.pairwise_cons.2 ⟨fun e he => ?_, ih h.2⟩
        rcases mem_put he with rfl | he
        · exact Decidable.byContradiction fun hl =>
            hne (Std.le_antisymm (Std.not_lt.1 hl) (Std.not_lt.1 hk))
        · exact h.1 e he

omit [DecidableEq κ] in
theorem eq_of_mem_iff {es fs : List (κ × α)} (he : es.Pairwise (·.1 < ·.1))
    (hf : fs.Pairwise (·.1 < ·.1))
    (mem : ∀ e, e ∈ es ↔ e ∈ fs) : es = fs := by
  induction es generalizing fs with
  | nil =>
    cases fs with
    | nil => rfl
    | cons f fs => exact absurd ((mem f).2 (by simp)) (by simp)
  | cons e es ih =>
    cases fs with
    | nil => exact absurd ((mem e).1 (by simp)) (by simp)
    | cons f fs =>
      rw [List.pairwise_cons] at he hf
      have hef : e = f := by
        rcases List.mem_cons.1 ((mem e).1 (by simp)) with h | h
        · exact h
        rcases List.mem_cons.1 ((mem f).2 (by simp)) with h' | h'
        · exact h'.symm
        exact absurd (Std.lt_trans (hf.1 e h) (he.1 f h')) Std.lt_irrefl
      subst hef
      congr 1
      refine ih he.2 hf.2 fun x => ⟨fun hx => ?_, fun hx => ?_⟩
      · rcases List.mem_cons.1 ((mem x).1 (.tail _ hx)) with rfl | h
        · exact absurd (he.1 _ hx) Std.lt_irrefl
        · exact h
      · rcases List.mem_cons.1 ((mem x).2 (.tail _ hx)) with rfl | h
        · exact absurd (hf.1 _ hx) Std.lt_irrefl
        · exact h

namespace Table

theorem ext_get? {t u : Table κ α} (h : ∀ k, t.get? k = u.get? k) : t = u := by
  have mem : ∀ e, e ∈ t.entries ↔ e ∈ u.entries := fun e => by
    rw [← get?_eq_some (t := t), ← get?_eq_some (t := u), h]
  have := eq_of_mem_iff t.ordered u.ordered mem
  cases t; cases u; simp_all

section
variable [DecidableLT κ]

def insert (t : Table κ α) (k : κ) (a : α) : Table κ α :=
  ⟨put k a t.entries, put_pairwise t.ordered⟩

/-- Of several entries under one key the last counts. -/
def ofList (es : List (κ × α)) : Table κ α := es.foldl (fun t e => t.insert e.1 e.2) ∅

@[simp] theorem get?_insert (t : Table κ α) (k j : κ) (a : α) :
    (t.insert k a).get? j = if k = j then some a else t.get? j := find?_put j

end

end Table

end Diorama
