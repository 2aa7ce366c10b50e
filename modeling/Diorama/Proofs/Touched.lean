import Diorama.Proofs.Lookup
import Mathlib.Data.List.Nodup

namespace Diorama

theorem eraseDups_concat {α : Type} [DecidableEq α] (as : List α) (a : α) :
    (as ++ [a]).eraseDups = note a as.eraseDups := by
  rw [List.eraseDups_append]
  by_cases h : a ∈ as
  · rw [note, if_pos (List.mem_eraseDups.mpr h)]
    simp [List.removeAll, h]
  · rw [note_new (mt List.mem_eraseDups.mp h)]
    simp [List.removeAll, h, List.eraseDups_cons]

theorem nodup_eraseDups {α : Type} [DecidableEq α] (as : List α) : as.eraseDups.Nodup := by
  induction h : as.length generalizing as with
  | zero => simp [List.length_eq_zero_iff.mp h]
  | succ n ih =>
    obtain ⟨bs, b, rfl⟩ := List.eq_nil_or_concat as |>.resolve_left (by rintro rfl; cases h)
    rw [List.concat_eq_append, eraseDups_concat]
    exact nodup_note (ih bs (by simpa using h))

namespace Changes

def slots (ts : List (Entity × List String)) : List (Entity × String) :=
  ts.flatMap fun t => t.2.map (t.1, ·)

/-- Components by entity, each in the place where it first occurs. -/
def grouped (xs : List (Entity × String)) : List (Entity × List String) :=
  (xs.map (·.1)).eraseDups.map fun e => (e, ((xs.filter (·.1 = e)).map (·.2)).eraseDups)

theorem mem_slots_touchIn {e : Entity} {c : String} {ts : List (Entity × List String)}
    {x : Entity × String} : x ∈ slots (touchIn e c ts) ↔ x ∈ slots ts ∨ x = (e, c) := by
  induction ts with
  | nil => simp [touchIn, slots]
  | cons t ts ih =>
    obtain ⟨f, names⟩ := t
    rw [touchIn]
    simp only [slots] at ih
    split
    · rename_i hf
      subst hf
      simp only [slots, List.flatMap_cons, List.mem_append, List.mem_map, mem_note]
      grind
    · simp only [slots, List.flatMap_cons, List.mem_append, ih, or_assoc]

theorem touchIn_map {e : Entity} {c : String} {es : List Entity} (hes : es.Nodup)
    {names : Entity → List String} (hn : e ∉ es → names e = []) :
    touchIn e c (es.map fun x => (x, names x)) =
      (note e es).map fun x => (x, if x = e then note c (names x) else names x) := by
  induction es with
  | nil => simp [touchIn, note, hn]
  | cons f es ih =>
    obtain ⟨hf, hes⟩ := List.nodup_cons.mp hes
    rw [List.map_cons, touchIn]
    by_cases h : f = e
    · subst h
      have hs : ∀ x ∈ es, (x, if x = f then note c (names x) else names x) = (x, names x) := by
        intro x hx
        have hne : x ≠ f := by
          rintro rfl
          exact hf hx
        rw [if_neg hne]
      have hc : note f (f :: es) = f :: es := if_pos (List.mem_cons_self ..)
      rw [if_pos rfl, hc, List.map_cons, if_pos rfl, List.map_congr_left hs]
    · have hc : note e (f :: es) = f :: note e es := by
        simp only [note, List.mem_cons, Ne.symm h, false_or]
        split <;> rfl
      rw [if_neg h, ih hes fun he => hn (List.not_mem_cons_of_ne_of_not_mem (Ne.symm h) he),
        hc,
        List.map_cons, if_neg h]

theorem touchIn_grouped (xs : List (Entity × String)) (e : Entity) (c : String) :
    touchIn e c (grouped xs) = grouped (xs ++ [(e, c)]) := by
  rw [grouped, touchIn_map (nodup_eraseDups _), grouped, List.map_append, List.map_singleton,
    eraseDups_concat]
  · apply List.map_congr_left
    intro x hx
    by_cases h : x = e
    · subst h
      simp [List.filter_append, eraseDups_concat]
    · simp [List.filter_append, h, Ne.symm h]
  · intro he
    rw [List.mem_eraseDups] at he
    have hn : xs.filter (·.1 = e) = [] := by
      rw [List.filter_eq_nil_iff]
      intro x hx hxe
      exact he (of_decide_eq_true hxe ▸ List.mem_map_of_mem hx)
    rw [hn]
    rfl

theorem nodup_slots_grouped (xs : List (Entity × String)) : (slots (grouped xs)).Nodup := by
  have hk := nodup_eraseDups (xs.map (·.1))
  rw [slots, grouped, List.flatMap_map, List.nodup_flatMap]
  constructor
  · intro e he
    exact (nodup_eraseDups _).map fun c d h => (Prod.mk.inj h).2
  · apply hk.imp
    intro e f hef x hx hy
    obtain ⟨c, _, rfl⟩ := List.mem_map.mp hx
    obtain ⟨d, _, hd⟩ := List.mem_map.mp hy
    exact hef (Prod.mk.inj hd).1.symm

theorem slots_filter (p : Entity → Bool) (ts : List (Entity × List String)) :
    slots (ts.filter fun t => p t.1) = (slots ts).filter fun x => p x.1 := by
  induction ts with
  | nil => rfl
  | cons t ts ih =>
    simp only [slots] at ih ⊢
    have hm : ∀ x ∈ t.2.map (t.1, ·), p x.1 = p t.1 := by
      intro x hx
      obtain ⟨c, _, rfl⟩ := List.mem_map.mp hx
      rfl
    rw [List.filter_cons, List.flatMap_cons, List.filter_append, ← ih]
    by_cases ht : p t.1 = true
    · have hs : (t.2.map (t.1, ·)).filter (fun x => p x.1) = t.2.map (t.1, ·) :=
        List.filter_eq_self.mpr fun x hx => (hm x hx).trans ht
      rw [if_pos ht, List.flatMap_cons, hs]
    · have hs : (t.2.map (t.1, ·)).filter (fun x => p x.1) = [] :=
        List.filter_eq_nil_iff.mpr fun x hx => hm x hx ▸ ht
      rw [if_neg ht, hs, List.nil_append]

theorem filter_touchIn (p : Entity → Bool) (e : Entity) (c : String)
    (ts : List (Entity × List String)) :
    (touchIn e c ts).filter (fun t => p t.1) =
      if p e then touchIn e c (ts.filter fun t => p t.1) else ts.filter fun t => p t.1 := by
  induction ts with
  | nil => by_cases h : p e = true <;> simp [touchIn, h]
  | cons t ts ih =>
    obtain ⟨f, names⟩ := t
    rw [touchIn]
    by_cases hf : f = e
    · subst hf
      by_cases h : p f = true <;> simp [touchIn, h]
    · rw [if_neg hf, List.filter_cons, ih, List.filter_cons]
      by_cases h : p e = true <;> by_cases h' : p f = true <;> simp [touchIn, h, h', hf]

end Changes

end Diorama
