import Diorama.Catalog.Basic
import Diorama.Proofs.Lookup

namespace Diorama

namespace Catalog

structure IsUsable (r : Record) : Prop where
  named : ∃ ch ∈ r.id.toList, isBlank ch = false
  shown : r.representations ≠ []
  listed {p : Representation} (hp : p ∈ r.representations) : ∃ e ∈ p.contents, e.file = p.mainFile

def put (c : Catalog) (r : Record) : Catalog := ⟨c.records.insert r.id r⟩

variable {c c' : Catalog} {r : Record} {rs : List Record} {id : String}

theorem ext_get? (h : ∀ id, c.get? id = c'.get? id) : c = c' := by
  cases c
  cases c'
  exact congrArg mk (Table.ext_get? h)

@[simp] theorem get?_empty (id : String) : get? ⟨∅⟩ id = none := rfl

@[simp] theorem get?_put (c : Catalog) (r : Record) (id : String) :
    (c.put r).get? id = if r.id = id then some r else c.get? id := Table.get?_insert ..

@[simp] theorem contains_put (c : Catalog) (r : Record) (id : String) :
    (c.put r).contains id = (decide (r.id = id) || c.contains id) := Table.contains_insert ..

theorem contains_eq (c : Catalog) (id : String) : c.contains id = (c.get? id).isSome := rfl

theorem hashOf?_isSome {p : Representation} {file : String} :
    (p.hashOf? file).isSome = true ↔ ∃ e ∈ p.contents, e.file = file := by
  rw [Representation.hashOf?, Option.isSome_map, List.find?_isSome]
  simp only [decide_eq_true_eq]

theorem unlisted_eq_none :
    (r.representations.find? fun p => (p.hashOf? p.mainFile).isNone) = none ↔
      ∀ p ∈ r.representations, ∃ e ∈ p.contents, e.file = p.mainFile := by
  simp only [List.find?_eq_none, ← hashOf?_isSome, Bool.not_eq_true, Option.isNone_eq_false_iff]

theorem check_ok : check r = .ok () ↔ IsUsable r := by
  rw [check]
  by_cases hb : r.id.toList.all isBlank = true
  · rw [if_pos hb]
    refine ⟨nofun, fun h => ?_⟩
    obtain ⟨ch, hm, hn⟩ := h.named
    rw [List.all_eq_true.mp hb ch hm] at hn
    cases hn
  rw [if_neg hb]
  by_cases he : r.representations.isEmpty = true
  · rw [if_pos he]
    exact ⟨nofun, fun h => absurd (List.isEmpty_iff.mp he) h.shown⟩
  rw [if_neg he]
  rcases hf : r.representations.find? fun p => (p.hashOf? p.mainFile).isNone with _ | p <;> rw [hf]
  · have hl := unlisted_eq_none.mp hf
    exact ⟨fun _ => ⟨by simpa using hb, fun h => he (List.isEmpty_iff.mpr h), hl _⟩, fun _ => rfl⟩
  · refine ⟨nofun, fun h => ?_⟩
    rw [unlisted_eq_none.mpr fun _ => h.listed] at hf
    cases hf

theorem add_ok : c.add r = .ok c' ↔ IsUsable r ∧ c.contains r.id = false ∧ c' = c.put r := by
  rw [← check_ok, add]
  rcases check r with e | ⟨⟩
  · exact ⟨nofun, fun h => nomatch h.1⟩
  change (if c.contains r.id = true then _ else Except.ok (c.put r)) = _ ↔ _
  by_cases hc : c.contains r.id = true
  · rw [if_pos hc, hc]
    exact ⟨nofun, fun h => nomatch h.2.1⟩
  · rw [if_neg hc, Except.ok.injEq]
    exact ⟨fun h => ⟨rfl, Bool.not_eq_true _ ▸ hc, h.symm⟩, fun h => h.2.2.symm⟩

theorem absent_put : (∀ x ∈ rs, (c.put r).contains x.id = false) ↔
    r.id ∉ rs.map (·.id) ∧ ∀ x ∈ rs, c.contains x.id = false := by
  simp only [contains_put, Bool.or_eq_false_iff, decide_eq_false_iff_not, List.mem_map, not_exists,
    not_and]
  exact ⟨fun h => ⟨fun x hx hi => (h x hx).1 hi.symm, fun x hx => (h x hx).2⟩,
    fun h x hx => ⟨fun hi => h.1 x hx hi.symm, h.2 x hx⟩⟩

theorem addAll_ok : rs.foldlM add c = .ok c' ↔ (∀ r ∈ rs, IsUsable r) ∧
    (∀ r ∈ rs, c.contains r.id = false) ∧ (rs.map (·.id)).Nodup ∧ c' = rs.foldl put c := by
  induction rs generalizing c with
  | nil => exact ⟨fun h => ⟨nofun, nofun, .nil, (Except.ok.inj h).symm⟩,
      fun h => congrArg _ h.2.2.2.symm⟩
  | cons r rs ih =>
    simp only [List.foldlM_cons, bind_ok, add_ok, ih, List.forall_mem_cons, List.map_cons,
      List.nodup_cons, List.foldl_cons]
    constructor
    · rintro ⟨_, ⟨hu, hc, rfl⟩, hus, hp, hn, he⟩
      obtain ⟨hm, hcs⟩ := absent_put.mp hp
      exact ⟨⟨hu, hus⟩, ⟨hc, hcs⟩, ⟨hm, hn⟩, he⟩
    · rintro ⟨⟨hu, hus⟩, ⟨hc, hcs⟩, ⟨hm, hn⟩, he⟩
      exact ⟨_, ⟨hu, hc, rfl⟩, hus, absent_put.mpr ⟨hm, hcs⟩, hn, he⟩

theorem get?_putAll {x : Record} (hc : ∀ r ∈ rs, c.contains r.id = false)
    (hn : (rs.map (·.id)).Nodup) :
    (rs.foldl put c).get? id = some x ↔ (x ∈ rs ∧ x.id = id) ∨ c.get? id = some x := by
  induction rs generalizing c with
  | nil => simp
  | cons r rs ih =>
    obtain ⟨hc, hcs⟩ := List.forall_mem_cons.mp hc
    obtain ⟨hm, hn⟩ := List.nodup_cons.mp hn
    rw [List.foldl_cons, ih (absent_put.mpr ⟨hm, hcs⟩) hn, get?_put]
    by_cases hi : r.id = id
    · -- No later record has the id, so the first one stays, and the catalog had none before.
      subst hi
      rw [contains_eq, Option.isSome_eq_false_iff, Option.isNone_iff_eq_none] at hc
      rw [if_pos rfl, hc, Option.some.injEq, List.mem_cons]
      constructor
      · rintro (⟨hx, hi⟩ | rfl)
        · exact .inl ⟨.inr hx, hi⟩
        · exact .inl ⟨.inl rfl, rfl⟩
      · rintro (⟨rfl | hx, hi⟩ | h)
        · exact .inr rfl
        · exact .inl ⟨hx, hi⟩
        · cases h
    · have hx : x ∈ r :: rs ∧ x.id = id ↔ x ∈ rs ∧ x.id = id :=
        and_congr_left fun h => List.mem_cons.trans (or_iff_right fun he => hi (he ▸ h))
      rw [if_neg hi, hx]

/-- A catalog holds the records, each under its id, and no others. -/
def Holds (c : Catalog) (rs : List Record) : Prop :=
  ∀ id r, c.get? id = some r ↔ r ∈ rs ∧ r.id = id

theorem Holds.eq (h : c.Holds rs) (h' : c'.Holds rs) : c = c' :=
  ext_get? fun id => Option.ext fun r => (h id r).trans (h' id r).symm

theorem Holds.perm {rs' : List Record} (h : c.Holds rs) (hp : rs.Perm rs') : c.Holds rs' :=
  fun id r => (h id r).trans (and_congr_left fun _ => hp.mem_iff)

theorem ofRecords_ok :
    ofRecords rs = .ok c ↔ (∀ r ∈ rs, IsUsable r) ∧ (rs.map (·.id)).Nodup ∧ c.Holds rs := by
  rw [ofRecords, addAll_ok]
  have holds (hn : (rs.map (·.id)).Nodup) : (rs.foldl put ⟨∅⟩).Holds rs := fun id r => by
    rw [get?_putAll (fun _ _ => rfl) hn, get?_empty]
    simp
  constructor
  · rintro ⟨hu, -, hn, rfl⟩
    exact ⟨hu, hn, holds hn⟩
  · rintro ⟨hu, hn, hc⟩
    exact ⟨hu, fun _ _ => rfl, hn, hc.eq (holds hn)⟩

theorem exists_ofRecords :
    (∃ c, ofRecords rs = .ok c) ↔ (∀ r ∈ rs, IsUsable r) ∧ (rs.map (·.id)).Nodup := by
  simp only [ofRecords, addAll_ok]
  exact ⟨fun ⟨_, hu, _, hn, _⟩ => ⟨hu, hn⟩, fun ⟨hu, hn⟩ => ⟨_, hu, fun _ _ => rfl, hn, rfl⟩⟩

theorem matched_ok {es : List (String × Record)} :
    matched es = .ok rs ↔ (∀ e ∈ es, e.1 = e.2.id) ∧ rs = es.map (·.2) := by
  induction es generalizing rs with
  | nil =>
    rw [matched, List.mapM_nil]
    exact ⟨fun h => ⟨nofun, (Except.ok.inj h).symm⟩, fun h => congrArg Except.ok h.2.symm⟩
  | cons e es ih =>
    rw [matched, List.mapM_cons, ← matched]
    simp only [bind_ok, ih, List.forall_mem_cons, List.map_cons]
    by_cases hk : e.1 = e.2.id
    · rw [if_pos hk]
      constructor
      · rintro ⟨_, ⟨⟩, _, ⟨hs, rfl⟩, h⟩
        exact ⟨⟨hk, hs⟩, (Except.ok.inj h).symm⟩
      · rintro ⟨⟨-, hs⟩, rfl⟩
        exact ⟨_, rfl, _, ⟨hs, rfl⟩, rfl⟩
    · rw [if_neg hk]
      exact ⟨nofun, fun h => absurd h.1.1 hk⟩

theorem ofDocument_keyed {t : Table String Record} : ofDocument (.keyed t) = .ok c ↔
    (∀ e ∈ t.entries, e.1 = e.2.id) ∧ ofRecords t.values = .ok c := by
  rw [ofDocument, bind_ok]
  simp only [matched_ok]
  constructor
  · rintro ⟨_, ⟨hk, rfl⟩, h⟩
    exact ⟨hk, h⟩
  · rintro ⟨hk, h⟩
    exact ⟨_, ⟨hk, rfl⟩, h⟩

/-- Records make a catalog if each of them is usable and no two have one id. The catalog finds each
record by its id and nothing else, whatever the order of the records. A document with keys makes a
catalog if its keys are the ids of its records and these make one, which is then the same. -/
theorem catalogs_hold_their_records :
    (∀ rs, (∃ c, ofRecords rs = .ok c) ↔ (∀ r ∈ rs, IsUsable r) ∧ (rs.map (·.id)).Nodup) ∧
    (∀ rs c, ofRecords rs = .ok c → (∀ r ∈ rs, c.get? r.id = some r) ∧
      ∀ id, (∀ r ∈ rs, r.id ≠ id) → c.get? id = none) ∧
    (∀ rs rs' c, List.Perm rs rs' → (ofRecords rs = .ok c ↔ ofRecords rs' = .ok c)) ∧
    ∀ t : Table String Record,
      ((∃ c, ofDocument (.keyed t) = .ok c) ↔
        (∀ e ∈ t.entries, e.1 = e.2.id) ∧ ∃ c, ofRecords t.values = .ok c) ∧
      ∀ rs c, ofDocument (.keyed t) = .ok c → List.Perm t.values rs →
        ofDocument (.list rs) = .ok c := by
  have perm {rs rs' : List Record} {c : Catalog} (hp : rs.Perm rs') (h : ofRecords rs = .ok c) :
      ofRecords rs' = .ok c := by
    obtain ⟨hu, hn, hc⟩ := ofRecords_ok.mp h
    exact ofRecords_ok.mpr
      ⟨fun r hr => hu r (hp.mem_iff.mpr hr), (hp.map _).nodup_iff.mp hn, hc.perm hp⟩
  refine ⟨fun rs => exists_ofRecords, fun rs c h => ?_, fun rs rs' c hp => ⟨perm hp, perm hp.symm⟩,
    fun t => ⟨?_, fun rs c h hp => perm hp (ofDocument_keyed.mp h).2⟩⟩
  · obtain ⟨-, -, hc⟩ := ofRecords_ok.mp h
    refine ⟨fun r hr => (hc r.id r).mpr ⟨hr, rfl⟩, fun id hid => ?_⟩
    rw [Option.eq_none_iff_forall_ne_some]
    intro r hr
    obtain ⟨hm, hi⟩ := (hc id r).mp hr
    exact hid r hm hi
  · simp only [ofDocument_keyed, exists_and_left]

def plain (id category : String) : Record where
  id := id
  description := ""
  category := category
  rarity := none
  tags := []
  hides := []
  replaces := []
  representations := [⟨["tall"], "a.glb", [⟨"b.png", "2"⟩, ⟨"a.glb", "1"⟩], [], []⟩]
  i18n := []
  thumbnail := none
  image := none
  createdAt := 0
  updatedAt := 0

theorem isUsable_plain {id : String} (h : ∃ ch ∈ id.toList, isBlank ch = false)
    (category : String) : IsUsable (plain id category) where
  named := h
  shown := List.cons_ne_nil _ _
  listed hp := by
    rw [List.mem_singleton.mp hp]
    exact ⟨⟨"a.glb", "1"⟩, by decide, rfl⟩

theorem usable_pair : ∀ r ∈ [plain "wig" "hair", plain "cap" "hat"], IsUsable r :=
  List.forall_mem_cons.mpr ⟨isUsable_plain ⟨'w', by decide, by decide⟩ _,
    List.forall_mem_singleton.mpr (isUsable_plain ⟨'c', by decide, by decide⟩ _)⟩

theorem catalogs_hold_their_records_two :
    let wig := plain "wig" "hair"
    let cap := plain "cap" "hat"
    let t := Table.ofList [("wig", wig), ("cap", cap)]
    ∃ c, ofRecords [wig, cap] = .ok c ∧ [wig, cap].Perm t.values ∧ c.get? "cap" = some cap ∧
      (∀ r ∈ [wig, cap], r.id ≠ "hat") ∧ c.get? "hat" = none ∧
      ofDocument (.keyed t) = .ok c ∧ ofDocument (.list [wig, cap]) = .ok c := by
  intro wig cap t
  obtain ⟨build, hold, perm, keyed⟩ := catalogs_hold_their_records
  obtain ⟨c, hc⟩ := (build [wig, cap]).mpr ⟨usable_pair, by decide⟩
  obtain ⟨found, unknown⟩ := hold _ c hc
  have hi : ∀ r ∈ [wig, cap], r.id ≠ "hat" := by decide
  have hp : t.values.Perm [wig, cap] := by decide +kernel
  obtain ⟨build, same⟩ := keyed t
  obtain ⟨d, hd⟩ := build.mpr ⟨by decide +kernel, c, (perm _ _ c hp).mpr hc⟩
  have hs := same _ d hd hp
  have hcd : c = d := Except.ok.inj (hc.symm.trans hs)
  exact ⟨c, hc, hp.symm, found cap (by simp), hi, unknown "hat" hi, hcd ▸ hd, hc⟩

end Catalog

end Diorama
