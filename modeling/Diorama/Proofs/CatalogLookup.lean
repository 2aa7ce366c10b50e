import Diorama.Proofs.CatalogBuild
import Diorama.Proofs.Framing
import Mathlib.Data.List.Nodup
import Mathlib.Tactic.SplitIfs

namespace Diorama

namespace Frame

/-- Two lists of bytes differ, and where they first do, the byte of the first is the lower one. -/
inductive Below : List UInt8 → List UInt8 → Prop
  | head {a b : UInt8} {s t : List UInt8} (h : a < b) : Below (a :: s) (b :: t)
  | tail {a : UInt8} {s t : List UInt8} (h : Below s t) : Below (a :: s) (a :: t)

section
variable {s t : List UInt8}

theorem below_cons {a b : UInt8} :
    Below (a :: s) (b :: t) ↔ a.toNat < b.toNat ∨ a.toNat = b.toNat ∧ Below s t := by
  rw [UInt8.toNat_inj, ← UInt8.lt_iff_toNat_lt]
  constructor
  · rintro (h | h)
    · exact .inl h
    · exact .inr ⟨rfl, h⟩
  · rintro (h | ⟨rfl, h⟩)
    · exact .head h
    · exact .tail h

theorem not_nil_below : ¬ Below [] t := nofun

theorem not_below_nil : ¬ Below s [] := nofun

theorem Below.append (h : Below s t) (more rest : List UInt8) : s ++ more < t ++ rest := by
  induction h with
  | head h => exact List.Lex.rel h
  | tail _ ih => exact List.Lex.cons ih

end

theorem val_lt (c : Char) : c.val.toNat < 0x110000 := by
  rcases c.valid with h | ⟨-, h⟩
  · exact Nat.lt_trans h (by decide)
  · exact h

/-- A longer form begins with a higher byte, and of two forms of one length the digits of the lower
character to the base 64 are the lower ones. -/
theorem below_encodeChar {a b : Char} (h : a < b) :
    Below (String.utf8EncodeChar a) (String.utf8EncodeChar b) := by
  have hv : a.val.toNat < b.val.toNat := h
  have ha := val_lt a
  have hb := val_lt b
  simp only [String.utf8EncodeChar]
  -- A case for each two lengths; the bytes are compared as numbers, one after another.
  split_ifs
  all_goals simp (disch := omega) only [below_cons, not_nil_below, not_below_nil,
    UInt8.toNat_ofNat', Nat.mod_eq_of_lt, and_false, or_false]
  all_goals omega

theorem utf8_toList (s : String) : utf8 s = s.toList.flatMap String.utf8EncodeChar := by
  rw [utf8_eq, ← String.utf8Encode_toList, List.utf8Encode, List.toList_data_toByteArray]

theorem encodeChars_lt {s t : List Char} (h : s < t) :
    s.flatMap String.utf8EncodeChar < t.flatMap String.utf8EncodeChar := by
  induction h with
  | @nil c t =>
    obtain ⟨b, bs, hb⟩ := List.exists_cons_of_ne_nil (String.utf8EncodeChar_ne_nil (c := c))
    rw [List.flatMap_nil, List.flatMap_cons, hb]
    exact List.Lex.nil
  | @cons c s t _ ih =>
    rw [List.flatMap_cons, List.flatMap_cons]
    exact List.append_left_lt ih
  | @rel c s d t h =>
    rw [List.flatMap_cons, List.flatMap_cons]
    exact (below_encodeChar h).append _ _

theorem utf8_lt {s t : String} (h : s < t) : utf8 s < utf8 t := by
  rw [utf8_toList, utf8_toList]
  exact encodeChars_lt h

end Frame

namespace Catalog

/-- A catalog that was made of the records, or of a document with them. -/
inductive MadeOf : Catalog → List Record → Prop
  | records {c : Catalog} {rs : List Record} (h : ofRecords rs = .ok c) : MadeOf c rs
  | document {c : Catalog} {d : CatalogDocument} (h : ofDocument d = .ok c) : MadeOf c d.records

variable {c : Catalog} {r : Record} {rs : List Record} {p : Representation} {id : String}

theorem MadeOf.built (h : c.MadeOf rs) :
    (∀ r ∈ rs, IsUsable r) ∧ (rs.map (·.id)).Nodup ∧ c.Holds rs := by
  cases h with
  | records h => exact ofRecords_ok.mp h
  | @document d h =>
    cases d with
    | list rs => exact ofRecords_ok.mp h
    | keyed t => exact ofRecords_ok.mp (ofDocument_keyed.mp h).2

theorem mem_ids : id ∈ c.ids ↔ c.contains id = true := Table.mem_keys

theorem Holds.key {e : String × Record} (h : c.Holds rs) (he : e ∈ c.records.entries) :
    e.2 ∈ rs ∧ e.2.id = e.1 := (h e.1 e.2).mp (Table.get?_eq_some.mpr he)

theorem Holds.mem_values (h : c.Holds rs) : r ∈ c.records.values ↔ r ∈ rs := by
  rw [Table.values, List.mem_map]
  constructor
  · rintro ⟨e, he, rfl⟩
    exact (h.key he).1
  · exact fun hr => ⟨(r.id, r), Table.get?_eq_some.mp ((h r.id r).mpr ⟨hr, rfl⟩), rfl⟩

theorem Holds.mem_byCategory (h : c.Holds rs) {category : String} :
    r ∈ c.byCategory category ↔ r ∈ rs ∧ r.category = category := by
  rw [byCategory, List.mem_filter, h.mem_values, decide_eq_true_eq]

theorem Holds.values_ascending (h : c.Holds rs) : c.records.values.Pairwise (·.id < ·.id) :=
  List.pairwise_map.mpr <| c.records.ordered.imp_of_mem fun he hf hl => by
    rwa [(h.key he).2, (h.key hf).2]

theorem Holds.byCategory_ascending (h : c.Holds rs) (category : String) :
    (c.byCategory category).Pairwise (·.id < ·.id) := h.values_ascending.filter _

theorem Holds.categories_perm (h : c.Holds rs) (hn : (rs.map (·.id)).Nodup) {cats : List String}
    (hd : cats.Nodup) (hc : ∀ r ∈ rs, r.category ∈ cats) : (cats.flatMap c.byCategory).Perm rs := by
  have hl : (cats.flatMap c.byCategory).Nodup := by
    refine List.nodup_flatMap.mpr ⟨fun category _ => ?_, hd.imp fun hne r hr hs => hne ?_⟩
    · exact (h.byCategory_ascending category).imp fun hlt =>
        ne_of_apply_ne (·.id) (Std.ne_of_lt hlt)
    · rw [← (h.mem_byCategory.mp hr).2, (h.mem_byCategory.mp hs).2]
  refine (List.perm_ext_iff_of_nodup hl (.of_map _ hn)).mpr fun r => ?_
  rw [List.mem_flatMap]
  constructor
  · rintro ⟨category, -, hr⟩
    exact (h.mem_byCategory.mp hr).1
  · exact fun hr => ⟨r.category, hc r hr, h.mem_byCategory.mpr ⟨hr, rfl⟩⟩

theorem displayName?_isSome (c : Catalog) (id locale : String) :
    (c.displayName? id locale).isSome = c.contains id := by
  rw [displayName?, contains_eq]
  cases c.get? id <;> rfl

theorem representationFor?_eq_some {shape : String} : c.representationFor? id shape = some p ↔
    ∃ r before after, c.get? id = some r ∧ r.representations = before ++ p :: after ∧
      shape ∈ p.bodyShapes ∧ ∀ q ∈ before, shape ∉ q.bodyShapes := by
  rw [representationFor?, Option.bind_eq_bind, Option.bind_eq_some_iff]
  simp only [List.find?_eq_some_iff_append, Representation.supports, List.contains_iff_mem,
    Bool.not_eq_true', ← Bool.not_eq_true]
  constructor
  · rintro ⟨r, hr, hp, before, after, ha, hb⟩
    exact ⟨r, before, after, hr, ha, hp, hb⟩
  · rintro ⟨r, before, after, hr, ha, hp, hb⟩
    exact ⟨r, hr, hp, before, after, ha, hb⟩

theorem contentHash?_eq (c : Catalog) (id shape file : String) : c.contentHash? id shape file =
    (c.representationFor? id shape).bind (·.hashOf? file) := rfl

theorem MadeOf.hashed (h : c.MadeOf rs) {shape : String}
    (hp : c.representationFor? id shape = some p) :
    (c.contentHash? id shape p.mainFile).isSome = true := by
  obtain ⟨hu, -, hc⟩ := h.built
  obtain ⟨r, before, after, hr, hs, -, -⟩ := representationFor?_eq_some.mp hp
  have hm : p ∈ r.representations := hs ▸ List.mem_append_right _ (List.mem_cons_self ..)
  rw [contentHash?_eq, hp, Option.bind_some, hashOf?_isSome]
  exact (hu r ((hc id r).mp hr).1).listed hm

/-- A catalog lists the ids it has, and the records of a category, in the order of the bytes of the
ids. Every record is listed in one category, once. There is a name in every language just for the
ids it has. The representation found for a shape is the first of its record that lists the shape,
and the main file of it has a hash; where none is found, no file has one. -/
theorem lookups_agree (h : c.MadeOf rs) :
    ((c.ids.map Frame.utf8).Pairwise (· < ·) ∧ ∀ id, id ∈ c.ids ↔ c.contains id = true) ∧
    (∀ category, ((c.byCategory category).map fun r => Frame.utf8 r.id).Pairwise (· < ·) ∧
      ∀ r, r ∈ c.byCategory category ↔ r ∈ rs ∧ r.category = category) ∧
    (∀ cats : List String, cats.Nodup → (∀ r ∈ rs, r.category ∈ cats) →
      (cats.flatMap c.byCategory).Perm rs) ∧
    (∀ id locale, (c.displayName? id locale).isSome = c.contains id) ∧
    (∀ id shape p, c.representationFor? id shape = some p →
      (∃ r before after, c.get? id = some r ∧ r.representations = before ++ p :: after ∧
        shape ∈ p.bodyShapes ∧ ∀ q ∈ before, shape ∉ q.bodyShapes) ∧
      (c.contentHash? id shape p.mainFile).isSome = true) ∧
    ∀ id shape file, c.representationFor? id shape = none →
      c.contentHash? id shape file = none := by
  obtain ⟨-, hn, hc⟩ := h.built
  refine ⟨⟨?_, fun id => mem_ids⟩, fun category => ⟨?_, fun r => hc.mem_byCategory⟩,
    fun cats => hc.categories_perm hn, c.displayName?_isSome, fun id shape p hp =>
      ⟨representationFor?_eq_some.mp hp, h.hashed hp⟩, fun id shape file hp => ?_⟩
  · exact List.pairwise_map.mpr (c.records.keys_ascending.imp Frame.utf8_lt)
  · exact List.pairwise_map.mpr ((hc.byCategory_ascending category).imp Frame.utf8_lt)
  · rw [contentHash?_eq, hp, Option.bind_none]

theorem lookups_agree_two :
    let wig := plain "wig" "hair"
    let cap := plain "cap" "hat"
    ∃ c, MadeOf c [wig, cap] ∧ c.contains "cap" = true ∧
      (["hat", "hair"].flatMap c.byCategory).Perm [wig, cap] ∧
      (c.displayName? "cap" "de").isSome = true ∧
      (∃ p, c.representationFor? "cap" "tall" = some p ∧
        (c.contentHash? "cap" "tall" p.mainFile).isSome = true) ∧
      c.representationFor? "cap" "short" = none ∧ c.contentHash? "cap" "short" "a.glb" = none := by
  intro wig cap
  obtain ⟨c, hc⟩ := exists_ofRecords.mpr ⟨usable_pair, by decide⟩
  have hm : MadeOf c [wig, cap] := .records hc
  obtain ⟨⟨-, hids⟩, -, hcats, hname, hshape, hnone⟩ := lookups_agree hm
  have hg : c.get? "cap" = some cap := ((hm.built.2.2) "cap" cap).mpr ⟨by simp, rfl⟩
  have hi : c.contains "cap" = true := by rw [contains_eq, hg, Option.isSome_some]
  have hp : c.representationFor? "cap" "tall" = cap.representations.head? := by
    rw [representationFor?, hg]
    rfl
  have hs : c.representationFor? "cap" "short" = none := by
    rw [representationFor?, hg]
    rfl
  exact ⟨c, hm, hi, hcats _ (by decide) (by decide), (hname ..).trans hi,
    ⟨_, hp, (hshape _ _ _ hp).2⟩, hs, hnone _ _ _ hs⟩

end Catalog

end Diorama
