import Diorama.Proofs.Lookup
import Diorama.Scene.World
import Mathlib.Data.List.Infix

namespace Diorama

variable {κ : Type}

namespace Table

section
variable {κ α : Type} [LT κ] [LE κ] [Std.LawfulOrderLT κ] [Std.IsLinearOrder κ] [DecidableEq κ]
  [DecidableLT κ]

theorem get?_ofList {F : κ → Option α} {es : List (κ × α)} (h : ∀ e ∈ es, F e.1 = some e.2)
    (k : κ) : (ofList es).get? k = if k ∈ es.map (·.1) then F k else none := by
  suffices hf : ∀ t : Table κ α, (es.foldl (fun t e => t.insert e.1 e.2) t).get? k =
      if k ∈ es.map (·.1) then F k else t.get? k from hf ∅
  induction es with
  | nil => exact fun t => rfl
  | cons e es ih =>
    intro t
    rw [List.foldl_cons, ih (fun e he => h e (.tail _ he)), get?_insert, List.map_cons]
    by_cases hk : k ∈ es.map (·.1)
    · rw [if_pos hk, if_pos (.tail _ hk)]
    · rw [if_neg hk]
      by_cases he : e.1 = k
      · rw [if_pos he, if_pos (by rw [he]; exact .head _), ← he, h e (.head _)]
      · rw [if_neg he, if_neg]
        rintro (_ | hm)
        · exact he rfl
        · exact hk (by assumption)

end

end Table

namespace Filter

variable {α : Type}

theorem cut_prefix (f : Filter) (as : List α) : f.cut as <+: as := by
  rw [cut]
  split
  · exact List.take_prefix _ _
  · exact List.prefix_rfl

end Filter

namespace World

structure Fits (w : World κ) (f : Filter) (e : Entity) : Prop where
  alive : w.isAlive e = true
  present {c : String} (hc : c ∈ f.present) : w.has e c = true
  absent {c : String} (hc : c ∈ f.absent) : w.has e c = false

/-- All entities that fit, however many are asked for. -/
def fitting (w : World κ) (f : Filter) : List Entity :=
  w.entities.toList.filter (f.admits w.store)

variable {w : World κ} {f g : Filter} {e : Entity} {m : Match}

theorem has_alive (ha : w.isAlive e = true) (c : String) : w.has e c = w.store.contains e c := by
  rw [has, get?, if_pos ha, Store.contains]

theorem mem_fitting : e ∈ w.fitting f ↔ w.Fits f e := by
  rw [fitting, List.mem_filter, Entities.toList, Table.mem_keys, Filter.admits, Bool.and_eq_true,
    List.all_eq_true, Bool.not_eq_true', List.any_eq_false]
  constructor
  · intro ⟨ha, hp, hn⟩
    refine ⟨ha, fun hc => ?_, fun hc => ?_⟩
    · rw [has_alive ha]
      exact hp _ hc
    · rw [has_alive ha, ← Bool.not_eq_true]
      exact hn _ hc
  · intro h
    refine ⟨h.alive, fun c hc => ?_, fun c hc => ?_⟩
    · rw [← has_alive h.alive]
      exact h.present hc
    · rw [← has_alive h.alive, h.absent hc]
      exact Bool.false_ne_true

theorem fitting_ascending : (w.fitting f).Pairwise (· < ·) :=
  (Table.keys_ascending _).filter _

theorem fitting_eq_nil {c : String} (hp : c ∈ f.present) (hn : c ∈ f.absent) :
    w.fitting f = [] := by
  refine List.eq_nil_iff_forall_not_mem.mpr fun e he => ?_
  have he := mem_fitting.mp he
  have hc := he.absent hn
  rw [he.present hp] at hc
  cases hc

theorem fitting_sublist (hp : f.present ⊆ g.present) (hn : f.absent ⊆ g.absent) :
    (w.fitting g).Sublist (w.fitting f) := by
  refine List.monotone_filter_right _ fun e he => ?_
  simp only [Filter.admits, Bool.and_eq_true, List.all_eq_true, Bool.not_eq_true',
    List.any_eq_false] at he ⊢
  exact ⟨fun c hc => he.1 c (hp hc), fun c hc => he.2 c (hn hc)⟩

theorem select_entities : (w.select f).map (·.entity) = f.cut (w.fitting f) := by
  rw [select, List.map_map]
  exact List.map_id _

theorem fits_of_mem (hm : m ∈ w.select f) : w.Fits f m.entity := by
  have he : m.entity ∈ f.cut (w.fitting f) := by
    rw [← select_entities]
    exact List.mem_map_of_mem hm
  exact mem_fitting.mp (f.cut_prefix _ |>.subset he)

theorem found_of_le (hm : m ∈ w.select f) (he : w.Fits f e) (hl : e.id ≤ m.entity.id) :
    e ∈ (w.select f).map (·.entity) := by
  have hme : m.entity ∈ (w.select f).map (·.entity) := List.mem_map_of_mem hm
  have ha := fitting_ascending (w := w) (f := f)
  have he := mem_fitting.mpr he
  obtain ⟨rest, hr⟩ := f.cut_prefix (w.fitting f)
  rw [select_entities] at hme ⊢
  rw [← hr, List.pairwise_append] at ha
  rw [← hr, List.mem_append] at he
  exact he.resolve_right fun hx => Nat.not_lt.mpr hl (ha.2.2 _ hme _ hx)

theorem components_get? (hm : m ∈ w.select f) (c : String) :
    m.components.get? c = if c ∈ f.present then w.get? m.entity c else none := by
  have ha := (fits_of_mem hm).alive
  rw [select] at hm
  obtain ⟨e, -, rfl⟩ := List.mem_map.mp hm
  rw [get?, if_pos ha, Table.get?_ofList (F := w.store.get? e)]
  · cases hv : w.store.get? e c with
    | none => rw [ite_self, ite_self]
    | some v => simp [hv]
  · intro x hx
    obtain ⟨c, -, hc⟩ := List.mem_filterMap.mp hx
    obtain ⟨v, hv, rfl⟩ := Option.map_eq_some_iff.mp hc
    exact hv

theorem mem_components_keys (hm : m ∈ w.select f) {c : String} :
    c ∈ m.components.keys ↔ c ∈ f.present := by
  rw [Table.mem_keys, Table.contains, components_get? hm]
  constructor
  · intro hc
    refine Decidable.byContradiction fun hn => ?_
    rw [if_neg hn] at hc
    cases hc
  · intro hc
    rw [if_pos hc]
    exact (fits_of_mem hm).present hc

theorem select_prefix {n : Nat} {k? : Option Nat} (hk : ∀ k ∈ k?, n ≤ k) :
    w.select { f with limit := some n } <+: w.select { f with limit := k? } := by
  refine List.IsPrefix.map _ ?_
  cases k? with
  | none => exact List.take_prefix _ _
  | some k => exact List.take_prefix_take_left (hk k rfl)

/-- Who asks for entities by their components is told, in ascending order, of the first of all those
that fit, and with each of the components that it must have. So a higher limit only adds entities,
at the end, more names only take entities away, and of no entity can a component be there and not be
there. -/
theorem selections_are_exact (w : World κ) (f : Filter) :
    (∃ all : List Entity, all.Pairwise (· < ·) ∧ (∀ e, e ∈ all ↔ w.Fits f e) ∧
      (w.select f).map (·.entity) = match f.limit with
        | some n => all.take n
        | none => all) ∧
    (∀ m ∈ w.select f, ∀ e, w.Fits f e → e.id ≤ m.entity.id →
      e ∈ (w.select f).map (·.entity)) ∧
    (∀ m ∈ w.select f, m.components.keys.Nodup ∧
      (∀ c, c ∈ m.components.keys ↔ c ∈ f.present) ∧
      ∀ c ∈ f.present, ∃ v, m.components.get? c = some v ∧ w.get? m.entity c = some v) ∧
    (∀ n k?, (∀ k ∈ k?, n ≤ k) →
      w.select { f with limit := some n } <+: w.select { f with limit := k? }) ∧
    (∀ g : Filter, f.present ⊆ g.present → f.absent ⊆ g.absent → f.limit = none → g.limit = none →
      ((w.select g).map (·.entity)).Sublist ((w.select f).map (·.entity))) ∧
    (∀ c ∈ f.present, c ∈ f.absent → w.select f = []) := by
  refine ⟨⟨w.fitting f, fitting_ascending, fun e => mem_fitting, select_entities⟩,
    fun m hm e => found_of_le hm, fun m hm => ⟨m.components.keys_nodup,
      fun c => mem_components_keys hm, fun c hc => ?_⟩,
    fun n k? => select_prefix, fun g hp hn hf hg => ?_, fun c hp hn => ?_⟩
  · obtain ⟨v, hv⟩ := Option.isSome_iff_exists.mp ((fits_of_mem hm).present hc)
    refine ⟨v, ?_, hv⟩
    rw [components_get? hm, if_pos hc, hv]
  · rw [select_entities, select_entities, Filter.cut, Filter.cut, hf, hg]
    exact fitting_sublist hp hn
  · have hs : (w.select f).map (·.entity) = [] := by
      rw [select_entities, fitting_eq_nil hp hn, Filter.cut]
      split
      · exact List.take_nil
      · rfl
    exact List.map_eq_nil_iff.mp hs

theorem selections_are_exact_two :
    let w : World Unit := ((({} : World Unit).create.2.create.2.put ⟨1⟩ "A" .null).put ⟨2⟩ "A"
      (.bool true)).put ⟨2⟩ "B" .null
    let f : Filter := ⟨["A", "A"], [], none⟩
    (w.select f).map (·.entity) = [⟨1⟩, ⟨2⟩] ∧
      w.select { f with limit := some 1 } <+: w.select f ∧
      (w.select ⟨["A"], ["B"], none⟩).map (·.entity) = [⟨1⟩] ∧
      (((w.select ⟨["A"], ["B"], none⟩).map (·.entity)).Sublist
        ((w.select f).map (·.entity))) ∧
      w.select ⟨["A", "B"], ["B"], none⟩ = [] := by
  intro w f
  obtain ⟨-, -, -, hk, hg, -⟩ := selections_are_exact w f
  obtain ⟨-, -, -, -, -, hn⟩ := selections_are_exact w ⟨["A", "B"], ["B"], none⟩
  exact ⟨rfl, hk 1 none (by simp), rfl, hg ⟨["A"], ["B"], none⟩ (by simp [f]) (by simp [f]) rfl rfl,
    hn "B" (by simp) (by simp)⟩

end World

end Diorama
