import Diorama.Catalog.Record
import Diorama.Proofs.Settings
import Mathlib.Data.List.Forall2

namespace Diorama

namespace Json

/-- The fields of an object say something: there is one of each name, each says what it has to, and
what is left out may be left out. -/
structure Says (holds : String → Json → Prop) (lacks : String → Prop)
    (fs : List (String × Json)) : Prop where
  once : (fs.map (·.1)).Nodup
  present {name : String} {v : Json} (hf : (name, v) ∈ fs) : holds name v
  absent {name : String} (hf : find? name fs = none) : lacks name

def Lists {α : Type} (p : Json → α → Prop) (v : Json) (as : List α) : Prop :=
  ∃ vs, v = .arr vs ∧ List.Forall₂ p vs as

def Texts (v : Json) (ss : List String) : Prop := Lists (fun v s => v = .str s) v ss

def TextOrNull (v : Json) (s? : Option String) : Prop :=
  match s? with
  | some s => v = .str s
  | none => v = .null

def IsNatural (v : Json) (n : Nat) : Prop := ∃ i, v = .num (.int i) ∧ i.val = n

section
variable {holds : String → Json → Prop} {lacks : String → Prop} {fs : List (String × Json)}
  {name : String}

theorem Says.omitted (h : Says holds lacks fs) (hn : name ∉ fs.map (·.1)) : lacks name :=
  h.absent (find?_eq_none.mpr fun _ he hk => hn (hk ▸ List.mem_map_of_mem he))

theorem Says.mem (h : Says holds lacks fs) (hn : ¬ lacks name) : name ∈ fs.map (·.1) :=
  Decidable.byContradiction fun hk => hn (h.omitted hk)

theorem Says.isObject (h : Says holds lacks fs) {required : List String} {p : String → Json → Bool}
    (hr : ∀ k ∈ required, ¬ lacks k) (hp : ∀ k v, holds k v → p k v = true) :
    Schema.isObject required p (.obj fs) = true := by
  rw [Schema.isObject, Bool.and_eq_true, List.all_eq_true, List.all_eq_true]
  refine ⟨fun k hk => ?_, fun f hf => hp _ _ (h.present hf)⟩
  obtain ⟨f, hf, rfl⟩ := List.mem_map.mp (h.mem (hr k hk))
  rw [Option.isSome_iff_ne_none, ne_eq, find?_eq_none]
  exact fun hn => hn f hf rfl

end

theorem isObject_iff {required : List String} {p : String → Json → Bool} {v : Json} :
    Schema.isObject required p v = true ↔ ∃ fs, v = .obj fs ∧
      (∀ k ∈ required, (find? k fs).isSome = true) ∧ ∀ f ∈ fs, p f.1 f.2 = true := by
  cases v <;> simp [Schema.isObject]

theorem isOrdered_obj {fs : List (String × Json)} (h : (obj fs).isOrdered = true) :
    fs.Pairwise (·.1 < ·.1) ∧ ∀ f ∈ fs, f.2.isOrdered = true := by
  rw [isOrdered, Bool.and_eq_true, decide_eq_true_eq, isOrderedFields_iff] at h
  exact h

theorem isOrdered_arr {xs : List Json} (h : (arr xs).isOrdered = true) :
    ∀ x ∈ xs, x.isOrdered = true := by
  rw [isOrdered] at h
  induction xs with
  | nil => nofun
  | cons x xs ih =>
    rw [isOrderedItems, Bool.and_eq_true] at h
    exact List.forall_mem_cons.mpr ⟨h.1, ih h.2⟩

theorem names_nodup {fs : List (String × Json)} (hf : fs.Pairwise (·.1 < ·.1)) :
    (fs.map (·.1)).Nodup := List.pairwise_map.mpr (hf.imp Std.ne_of_lt)

theorem exists_given {α : Type} {fs : List (String × Json)} (hf : fs.Pairwise (·.1 < ·.1))
    {name : String} {p : Json → α → Prop} (a₀ : α) (hp : ∀ v, (name, v) ∈ fs → ∃ a, p v a) :
    ∃ a, (∀ v, (name, v) ∈ fs → p v a) ∧ (find? name fs = none → a = a₀) := by
  cases hv : find? name fs with
  | none => exact ⟨a₀, fun v hm => absurd rfl (find?_eq_none.mp hv _ hm), fun _ => rfl⟩
  | some v =>
    obtain ⟨a, ha⟩ := hp v ((Table.find?_eq_some hf).mp hv)
    refine ⟨a, fun u hu => ?_, nofun⟩
    rw [(Table.find?_eq_some hf).mpr hu] at hv
    exact Option.some.inj hv ▸ ha

theorem exists_required {α : Type} {fs : List (String × Json)} (hf : fs.Pairwise (·.1 < ·.1))
    {name : String} {p : Json → α → Prop} (hn : (find? name fs).isSome = true)
    (hp : ∀ v, (name, v) ∈ fs → ∃ a, p v a) :
    ∃ a, (∀ v, (name, v) ∈ fs → p v a) ∧ (find? name fs = none → False) := by
  obtain ⟨v, hv⟩ := Option.isSome_iff_exists.mp hn
  obtain ⟨a, -⟩ := hp v ((Table.find?_eq_some hf).mp hv)
  obtain ⟨a, ha, -⟩ := exists_given hf a hp
  exact ⟨a, ha, Option.isSome_iff_ne_none.mp hn⟩

theorem TextOrNull.isTextOrNull {v : Json} {s? : Option String} (h : v.TextOrNull s?) :
    Schema.isTextOrNull v = true := by
  cases s? <;> rw [h] <;> rfl

theorem IsNatural.isWhole {v : Json} {n : Nat} (h : v.IsNatural n) :
    Schema.isWhole (0 ≤ ·) v = true := by
  obtain ⟨i, hv, hn⟩ := h
  exact Schema.isWhole_iff.mpr ⟨_, i.val, hv, rfl, decide_eq_true (by omega)⟩

theorem exists_forall₂ {α β : Type} {p : α → β → Prop} {as : List α} (h : ∀ a ∈ as, ∃ b, p a b) :
    ∃ bs, List.Forall₂ p as bs := by
  induction as with
  | nil => exact ⟨[], .nil⟩
  | cons a as ih =>
    obtain ⟨⟨b, hb⟩, ht⟩ := List.forall_mem_cons.mp h
    obtain ⟨bs, hs⟩ := ih ht
    exact ⟨b :: bs, .cons hb hs⟩

theorem forall_of_forall₂ {α β : Type} {p : α → β → Prop} {q : α → Prop} {as : List α} {bs : List β}
    (hq : ∀ a b, p a b → q a) (h : List.Forall₂ p as bs) : ∀ a ∈ as, q a := by
  induction h with
  | nil => nofun
  | cons ha _ ih => exact List.forall_mem_cons.mpr ⟨hq _ _ ha, ih⟩

theorem exists_textOrNull {v : Json} (hv : Schema.isTextOrNull v = true) :
    ∃ s?, v.TextOrNull s? := by
  cases v with
  | null => exact ⟨none, rfl⟩
  | str s => exact ⟨some s, rfl⟩
  | _ => cases hv

theorem exists_lists {α : Type} {p : Json → α → Prop} {c : Json → Bool} {v : Json}
    (hv : Schema.isList c v = true) (ho : v.isOrdered = true)
    (hp : ∀ x, x.isOrdered = true → c x = true → ∃ a, p x a) : ∃ as, v.Lists p as := by
  cases v with
  | arr xs =>
    have hc : ∀ x ∈ xs, ∃ a, p x a := fun x hx =>
      hp x (isOrdered_arr ho x hx) (List.all_eq_true.mp hv x hx)
    obtain ⟨as, ha⟩ := exists_forall₂ hc
    exact ⟨as, xs, rfl, ha⟩
  | _ => cases hv

theorem exists_texts {v : Json} (hv : Schema.isList Schema.isText v = true)
    (ho : v.isOrdered = true) : ∃ ss, v.Texts ss :=
  exists_lists hv ho fun _ _ => Schema.isText_iff.mp

theorem Lists.isList {α : Type} {p : Json → α → Prop} {c : Json → Bool} {v : Json} {as : List α}
    (hp : ∀ x a, p x a → c x = true) (h : v.Lists p as) : Schema.isList c v = true := by
  obtain ⟨vs, rfl, h⟩ := h
  exact List.all_eq_true.mpr (forall_of_forall₂ hp h)

theorem Texts.isList {v : Json} {ss : List String} (h : v.Texts ss) :
    Schema.isList Schema.isText v = true :=
  Lists.isList (fun _ _ hv => Schema.isText_iff.mpr ⟨_, hv⟩) h

end Json

namespace Draft

variable {α σ : Type}

open Json in
mutual

theorem skip_draft : ∀ v : Json, v.draft.skip = .ok ()
  | .null | .bool _ | .num _ | .str _ => rfl
  | .arr xs => by
    rw [draft, skip, skipItems_draft xs]
    rfl
  | .obj fs => by
    rw [draft, skip, skipFields_draft fs]
    rfl

theorem skipItems_draft : ∀ xs : List Json, skipItems (draftItems xs) = .ok ()
  | [] => rfl
  | x :: xs => by
    rw [draftItems, skipItems, skip_draft x, skipItems_draft xs]
    rfl

theorem skipFields_draft : ∀ fs : List (String × Json), skipFields (draftFields fs) = .ok ()
  | [] => rfl
  | (k, x) :: fs => by
    rw [draftFields, skipFields, skip_draft x, skipFields_draft fs]
    rfl

end

theorem once_then {o : Option α} {read : Draft → Except Fault α} {d : Draft} {a : α}
    {f : Option α → σ} {s : σ} (ho : o = none) (h : read d = .ok a) (hs : f (some a) = s) :
    (do return f (← once o read d)) = Except.ok s := by
  rw [ho, once, h, ← hs]
  rfl

theorem skip_then {s s' : σ} (v : Json) (hs : s = s') :
    (do v.draft.skip; return s) = Except.ok s' := by
  rw [skip_draft, hs]
  rfl

theorem text_ok {v : Json} {s : String} (h : v = .str s) : text v.draft = .ok s := by
  rw [h]
  rfl

theorem list_ok {p : Json → α → Prop} {read : Draft → Except Fault α} {v : Json} {as : List α}
    (hr : ∀ v a, p v a → read v.draft = .ok a) (h : v.Lists p as) : list read v.draft = .ok as := by
  obtain ⟨vs, rfl, h⟩ := h
  have hm : (Json.draftItems vs).mapM read = .ok as := by
    induction h with
    | nil => rfl
    | cons h hs ih =>
      rw [Json.draftItems, List.mapM_cons, hr _ _ h, ih]
      rfl
  rw [Json.draft, list, hm]
  rfl

theorem texts_ok {v : Json} {ss : List String} (h : v.Texts ss) :
    list text v.draft = .ok ss := list_ok (fun _ _ => text_ok) h

theorem textOrNull_ok {v : Json} {s? : Option String} (h : v.TextOrNull s?) :
    optional text v.draft = .ok s? := by
  cases s? <;> rw [h] <;> rfl

theorem nat_ok {v : Json} {n : Nat} (h : v.IsNatural n) : nat v.draft = .ok n := by
  have hn := Json.nat?_eq_some.mpr h
  obtain ⟨i, rfl, -⟩ := h
  exact congrArg (expect _) hn

theorem nat_draft {v : Json} {n : Nat} (h : nat v.draft = .ok n) : v.IsNatural n := by
  refine Json.nat?_eq_some.mp ?_
  cases v with
  | num m =>
    simp only [Json.draft, nat] at h
    cases hm : m.toNat? with
    | none =>
      rw [hm] at h
      cases h
    | some k =>
      rw [hm] at h
      cases h
      exact hm
  | _ => cases h

theorem once_read {o : Option α} {read : Draft → Except Fault α} {d : Draft} {a? : Option α}
    (h : once o read d = .ok a?) : ∃ a, read d = .ok a := by
  cases o with
  | some _ => cases h
  | none =>
    rw [once] at h
    cases hr : read d with
    | error f =>
      rw [hr] at h
      cases h
    | ok a => exact ⟨a, rfl⟩

theorem foldlM_steps {β : Type} {step : σ → β → Except Fault σ} {s s' : σ} {xs : List β}
    (h : xs.foldlM step s = .ok s') : ∀ x ∈ xs, ∃ t t', step t x = .ok t' := by
  induction xs generalizing s with
  | nil => nofun
  | cons x xs ih =>
    rw [List.foldlM_cons] at h
    obtain ⟨t, ht, h⟩ := bind_ok.mp h
    exact List.forall_mem_cons.mpr ⟨⟨s, t, ht⟩, ih h⟩

theorem getD_given {name : String} {names : List String} {a d : α} (h : name ∉ names → a = d) :
    (if name ∈ names then some a else none).getD d = a := by
  split
  · rfl
  · exact (h ‹_›).symm

theorem join_given {name : String} {names : List String} {a? : Option α}
    (h : name ∉ names → a? = none) : (if name ∈ names then some a? else none).join = a? := by
  split
  · rfl
  · exact (h ‹_›).symm

/-- A record is read field by field. What is seen depends on the names that were met alone. -/
theorem record_seen {names : List String} {step : σ → String → Draft → Except Fault σ}
    {holds : String → Json → Prop} {lacks : String → Prop} {seen : List String → σ}
    (hs : ∀ ks k v, k ∉ ks → holds k v → step (seen ks) k v.draft = .ok (seen (ks ++ [k])))
    {fs : List (String × Json)} (hf : Json.Says holds lacks fs) :
    record names step (seen []) (Json.draft (.obj fs)) = .ok (seen (fs.map (·.1))) := by
  -- The induction is on the fields that are left, with the names `ks` of those already met.
  have along (ks : List String) (fs : List (String × Json)) (hn : (ks ++ fs.map (·.1)).Nodup)
      (hf : ∀ f ∈ fs, holds f.1 f.2) :
      fs.foldlM (fun s f => step s f.1 f.2.draft) (seen ks) = .ok (seen (ks ++ fs.map (·.1))) := by
    induction fs generalizing ks with
    | nil =>
      rw [List.map_nil, List.append_nil]
      rfl
    | cons f fs ih =>
      obtain ⟨hh, hf⟩ := List.forall_mem_cons.mp hf
      have hk : f.1 ∉ ks := fun hk =>
        (List.nodup_append.mp hn).2.2 _ hk _ (List.mem_cons_self ..) rfl
      rw [List.map_cons, List.append_cons] at hn ⊢
      rw [foldlM_ok (hs ks f.1 f.2 hk hh)]
      exact ih _ hn hf
  rw [record_fields]
  exact along [] fs hf.once fun f h => hf.present h

end Draft

namespace ContentEntry

def Holds (c : ContentEntry) (name : String) (v : Json) : Prop :=
  match name with
  | "file" => v = .str c.file
  | "hash" => v = .str c.hash
  | _ => True

def Lacks (_ : ContentEntry) (name : String) : Prop :=
  match name with
  | "file" | "hash" => False
  | _ => True

def Describes (v : Json) (c : ContentEntry) : Prop :=
  ∃ fs, v = .obj fs ∧ Json.Says c.Holds c.Lacks fs

def seen (c : ContentEntry) (names : List String) : Seen where
  file := if "file" ∈ names then some c.file else none
  hash := if "hash" ∈ names then some c.hash else none

variable {c : ContentEntry} {v : Json}

theorem field_seen (ks : List String) (k : String) (v : Json) (hk : k ∉ ks) (hv : c.Holds k v) :
    field (c.seen ks) k v.draft = .ok (c.seen (ks ++ [k])) := by
  unfold Holds at hv
  split at hv
  · exact Draft.once_then (if_neg hk) (Draft.text_ok hv) (by simp [seen])
  · exact Draft.once_then (if_neg hk) (Draft.text_ok hv) (by simp [seen])
  -- A field of another name is passed over, and adds nothing to what has been seen.
  · have hs : field (c.seen ks) k v.draft = (do v.draft.skip; return c.seen ks) := by
      unfold field
      split <;> first | contradiction | rfl
    rw [hs]
    exact Draft.skip_then v (by simp_all [seen, eq_comm (b := k)])

theorem ofDraft_ok (h : Describes v c) : ofDraft v.draft = .ok c := by
  obtain ⟨fs, rfl, h⟩ := h
  have hr : Draft.record ["file", "hash"] field {} (Json.draft (.obj fs)) =
      .ok (c.seen (fs.map (·.1))) := Draft.record_seen c.field_seen h
  have hf : "file" ∈ fs.map (·.1) := h.mem not_false
  have hh : "hash" ∈ fs.map (·.1) := h.mem not_false
  rw [ofDraft, hr, seen, if_pos hf, if_pos hh]
  rfl

theorem conforms (h : Describes v c) : CatalogDocument.contentConforms v = true := by
  obtain ⟨fs, rfl, h⟩ := h
  refine h.isObject (by simp [Lacks]) fun k v hv => ?_
  unfold Holds at hv
  split at hv
  · exact Schema.isText_iff.mpr ⟨_, hv⟩
  · exact Schema.isText_iff.mpr ⟨_, hv⟩
  · simp_all

theorem exists_described (hv : v.isOrdered = true)
    (hc : CatalogDocument.contentConforms v = true) : ∃ c, Describes v c := by
  obtain ⟨fs, rfl, hr, hp⟩ := Json.isObject_iff.mp hc
  have ho := (Json.isOrdered_obj hv).1
  obtain ⟨file, hfile⟩ := Json.exists_required ho (hr "file" (by simp))
    fun v hv => Schema.isText_iff.mp (hp _ hv)
  obtain ⟨hash, hhash⟩ := Json.exists_required ho (hr "hash" (by simp))
    fun v hv => Schema.isText_iff.mp (hp _ hv)
  refine ⟨⟨file, hash⟩, fs, rfl, Json.names_nodup ho, fun {name v} hf => ?_, fun {name} hf => ?_⟩
  · unfold Holds
    split
    · exact hfile.1 v hf
    · exact hhash.1 v hf
    · trivial
  · unfold Lacks
    split
    · exact hfile.2 hf
    · exact hhash.2 hf
    · trivial

end ContentEntry

namespace LocalizedText

def Holds (t : LocalizedText) (name : String) (v : Json) : Prop :=
  match name with
  | "code" => v = .str t.code
  | "text" => v = .str t.text
  | _ => True

def Lacks (_ : LocalizedText) (name : String) : Prop :=
  match name with
  | "code" | "text" => False
  | _ => True

def Describes (v : Json) (t : LocalizedText) : Prop :=
  ∃ fs, v = .obj fs ∧ Json.Says t.Holds t.Lacks fs

def seen (t : LocalizedText) (names : List String) : Seen where
  code := if "code" ∈ names then some t.code else none
  text := if "text" ∈ names then some t.text else none

variable {t : LocalizedText} {v : Json}

theorem field_seen (ks : List String) (k : String) (v : Json) (hk : k ∉ ks) (hv : t.Holds k v) :
    field (t.seen ks) k v.draft = .ok (t.seen (ks ++ [k])) := by
  unfold Holds at hv
  split at hv
  · exact Draft.once_then (if_neg hk) (Draft.text_ok hv) (by simp [seen])
  · exact Draft.once_then (if_neg hk) (Draft.text_ok hv) (by simp [seen])
  · have hs : field (t.seen ks) k v.draft = (do v.draft.skip; return t.seen ks) := by
      unfold field
      split <;> first | contradiction | rfl
    rw [hs]
    exact Draft.skip_then v (by simp_all [seen, eq_comm (b := k)])

theorem ofDraft_ok (h : Describes v t) : ofDraft v.draft = .ok t := by
  obtain ⟨fs, rfl, h⟩ := h
  have hr : Draft.record ["code", "text"] field {} (Json.draft (.obj fs)) =
      .ok (t.seen (fs.map (·.1))) := Draft.record_seen t.field_seen h
  have hc : "code" ∈ fs.map (·.1) := h.mem not_false
  have ht : "text" ∈ fs.map (·.1) := h.mem not_false
  rw [ofDraft, hr, seen, if_pos hc, if_pos ht]
  rfl

theorem conforms (h : Describes v t) : CatalogDocument.textConforms v = true := by
  obtain ⟨fs, rfl, h⟩ := h
  refine h.isObject (by simp [Lacks]) fun k v hv => ?_
  unfold Holds at hv
  split at hv
  · exact Schema.isText_iff.mpr ⟨_, hv⟩
  · exact Schema.isText_iff.mpr ⟨_, hv⟩
  · simp_all

theorem exists_described (hv : v.isOrdered = true)
    (hc : CatalogDocument.textConforms v = true) : ∃ t, Describes v t := by
  obtain ⟨fs, rfl, hr, hp⟩ := Json.isObject_iff.mp hc
  have ho := (Json.isOrdered_obj hv).1
  obtain ⟨code, hcode⟩ := Json.exists_required ho (hr "code" (by simp))
    fun v hv => Schema.isText_iff.mp (hp _ hv)
  obtain ⟨text, htext⟩ := Json.exists_required ho (hr "text" (by simp))
    fun v hv => Schema.isText_iff.mp (hp _ hv)
  refine ⟨⟨code, text⟩, fs, rfl, Json.names_nodup ho, fun {name v} hf => ?_, fun {name} hf => ?_⟩
  · unfold Holds
    split
    · exact hcode.1 v hf
    · exact htext.1 v hf
    · trivial
  · unfold Lacks
    split
    · exact hcode.2 hf
    · exact htext.2 hf
    · trivial

end LocalizedText

namespace Representation

def Holds (r : Representation) (name : String) (v : Json) : Prop :=
  match name with
  | "bodyShapes" => v.Texts r.bodyShapes
  | "mainFile" => v = .str r.mainFile
  | "contents" => v.Lists ContentEntry.Describes r.contents
  | "overrideHides" => v.Texts r.overrideHides
  | "overrideReplaces" => v.Texts r.overrideReplaces
  | _ => True

def Lacks (r : Representation) (name : String) : Prop :=
  match name with
  | "bodyShapes" | "mainFile" | "contents" => False
  | "overrideHides" => r.overrideHides = []
  | "overrideReplaces" => r.overrideReplaces = []
  | _ => True

def Describes (v : Json) (r : Representation) : Prop :=
  ∃ fs, v = .obj fs ∧ Json.Says r.Holds r.Lacks fs

def seen (r : Representation) (names : List String) : Seen where
  bodyShapes := if "bodyShapes" ∈ names then some r.bodyShapes else none
  mainFile := if "mainFile" ∈ names then some r.mainFile else none
  contents := if "contents" ∈ names then some r.contents else none
  overrideHides := if "overrideHides" ∈ names then some r.overrideHides else none
  overrideReplaces := if "overrideReplaces" ∈ names then some r.overrideReplaces else none

variable {r : Representation} {v : Json}

theorem field_seen (ks : List String) (k : String) (v : Json) (hk : k ∉ ks) (hv : r.Holds k v) :
    field (r.seen ks) k v.draft = .ok (r.seen (ks ++ [k])) := by
  unfold Holds at hv
  split at hv
  · exact Draft.once_then (if_neg hk) (Draft.texts_ok hv) (by simp [seen])
  · exact Draft.once_then (if_neg hk) (Draft.text_ok hv) (by simp [seen])
  · exact Draft.once_then (if_neg hk) (Draft.list_ok (fun _ _ => ContentEntry.ofDraft_ok) hv)
      (by simp [seen])
  · exact Draft.once_then (if_neg hk) (Draft.texts_ok hv) (by simp [seen])
  · exact Draft.once_then (if_neg hk) (Draft.texts_ok hv) (by simp [seen])
  · have hs : field (r.seen ks) k v.draft = (do v.draft.skip; return r.seen ks) := by
      unfold field
      split <;> first | contradiction | rfl
    rw [hs]
    exact Draft.skip_then v (by simp_all [seen, eq_comm (b := k)])

theorem ofDraft_ok (h : Describes v r) : ofDraft v.draft = .ok r := by
  obtain ⟨fs, rfl, h⟩ := h
  have hr : Draft.record names field {} (Json.draft (.obj fs)) = .ok (r.seen (fs.map (·.1))) :=
    Draft.record_seen r.field_seen h
  have h₁ : "bodyShapes" ∈ fs.map (·.1) := h.mem not_false
  have h₂ : "mainFile" ∈ fs.map (·.1) := h.mem not_false
  have h₃ : "contents" ∈ fs.map (·.1) := h.mem not_false
  have h₄ : "overrideHides" ∉ fs.map (·.1) → r.overrideHides = [] := h.omitted
  have h₅ : "overrideReplaces" ∉ fs.map (·.1) → r.overrideReplaces = [] := h.omitted
  rw [ofDraft, hr, seen, if_pos h₁, if_pos h₂, if_pos h₃]
  simp only [bind, Except.bind, Draft.required, Draft.getD_given h₄, Draft.getD_given h₅]
  rfl

theorem conforms (h : Describes v r) : CatalogDocument.representationConforms v = true := by
  obtain ⟨fs, rfl, h⟩ := h
  refine h.isObject (by simp [Lacks]) fun k v hv => ?_
  unfold Holds at hv
  split at hv
  · exact hv.isList
  · exact Schema.isText_iff.mpr ⟨_, hv⟩
  · exact Json.Lists.isList (fun _ _ => ContentEntry.conforms) hv
  · exact hv.isList
  · exact hv.isList
  · simp_all

theorem exists_described (hv : v.isOrdered = true)
    (hc : CatalogDocument.representationConforms v = true) : ∃ r, Describes v r := by
  obtain ⟨fs, rfl, hr, hp⟩ := Json.isObject_iff.mp hc
  obtain ⟨ho, hi⟩ := Json.isOrdered_obj hv
  obtain ⟨bodyShapes, h₁⟩ := Json.exists_required ho (hr "bodyShapes" (by simp))
    fun v hv => Json.exists_texts (hp _ hv) (hi _ hv)
  obtain ⟨mainFile, h₂⟩ := Json.exists_required ho (hr "mainFile" (by simp))
    fun v hv => Schema.isText_iff.mp (hp _ hv)
  obtain ⟨contents, h₃⟩ := Json.exists_required ho (hr "contents" (by simp))
    fun v hv => Json.exists_lists (hp _ hv) (hi _ hv) fun _ => ContentEntry.exists_described
  obtain ⟨hides, h₄⟩ := Json.exists_given ho [] fun v (hv : ("overrideHides", v) ∈ fs) =>
    Json.exists_texts (hp _ hv) (hi _ hv)
  obtain ⟨replaces, h₅⟩ := Json.exists_given ho [] fun v (hv : ("overrideReplaces", v) ∈ fs) =>
    Json.exists_texts (hp _ hv) (hi _ hv)
  refine ⟨⟨bodyShapes, mainFile, contents, hides, replaces⟩, fs, rfl, Json.names_nodup ho,
    fun {name v} hf => ?_, fun {name} hf => ?_⟩
  · unfold Holds
    split
    · exact h₁.1 v hf
    · exact h₂.1 v hf
    · exact h₃.1 v hf
    · exact h₄.1 v hf
    · exact h₅.1 v hf
    · trivial
  · unfold Lacks
    split
    · exact h₁.2 hf
    · exact h₂.2 hf
    · exact h₃.2 hf
    · exact h₄.2 hf
    · exact h₅.2 hf
    · trivial

end Representation

namespace Record

def Holds (r : Record) (name : String) (v : Json) : Prop :=
  match name with
  | "id" => v = .str r.id
  | "description" => v = .str r.description
  | "category" => v = .str r.category
  | "rarity" => v.TextOrNull r.rarity
  | "tags" => v.Texts r.tags
  | "hides" => v.Texts r.hides
  | "replaces" => v.Texts r.replaces
  | "representations" => v.Lists Representation.Describes r.representations
  | "i18n" => v.Lists LocalizedText.Describes r.i18n
  | "thumbnail" => v.TextOrNull r.thumbnail
  | "image" => v.TextOrNull r.image
  | "createdAt" => v.IsNatural r.createdAt
  | "updatedAt" => v.IsNatural r.updatedAt
  | _ => True

def Lacks (r : Record) (name : String) : Prop :=
  match name with
  | "id" | "category" | "representations" => False
  | "description" => r.description = ""
  | "rarity" => r.rarity = none
  | "tags" => r.tags = []
  | "hides" => r.hides = []
  | "replaces" => r.replaces = []
  | "i18n" => r.i18n = []
  | "thumbnail" => r.thumbnail = none
  | "image" => r.image = none
  | "createdAt" => r.createdAt = 0
  | "updatedAt" => r.updatedAt = 0
  | _ => True

def Describes (v : Json) (r : Record) : Prop := ∃ fs, v = .obj fs ∧ Json.Says r.Holds r.Lacks fs

def seen (r : Record) (names : List String) : Seen where
  id := if "id" ∈ names then some r.id else none
  description := if "description" ∈ names then some r.description else none
  category := if "category" ∈ names then some r.category else none
  rarity := if "rarity" ∈ names then some r.rarity else none
  tags := if "tags" ∈ names then some r.tags else none
  hides := if "hides" ∈ names then some r.hides else none
  replaces := if "replaces" ∈ names then some r.replaces else none
  representations := if "representations" ∈ names then some r.representations else none
  i18n := if "i18n" ∈ names then some r.i18n else none
  thumbnail := if "thumbnail" ∈ names then some r.thumbnail else none
  image := if "image" ∈ names then some r.image else none
  createdAt := if "createdAt" ∈ names then some r.createdAt else none
  updatedAt := if "updatedAt" ∈ names then some r.updatedAt else none

variable {r : Record} {v : Json}

theorem field_seen (ks : List String) (k : String) (v : Json) (hk : k ∉ ks) (hv : r.Holds k v) :
    field (r.seen ks) k v.draft = .ok (r.seen (ks ++ [k])) := by
  unfold Holds at hv
  split at hv
  · exact Draft.once_then (if_neg hk) (Draft.text_ok hv) (by simp [seen])
  · exact Draft.once_then (if_neg hk) (Draft.text_ok hv) (by simp [seen])
  · exact Draft.once_then (if_neg hk) (Draft.text_ok hv) (by simp [seen])
  · exact Draft.once_then (if_neg hk) (Draft.textOrNull_ok hv) (by simp [seen])
  · exact Draft.once_then (if_neg hk) (Draft.texts_ok hv) (by simp [seen])
  · exact Draft.once_then (if_neg hk) (Draft.texts_ok hv) (by simp [seen])
  · exact Draft.once_then (if_neg hk) (Draft.texts_ok hv) (by simp [seen])
  · exact Draft.once_then (if_neg hk) (Draft.list_ok (fun _ _ => Representation.ofDraft_ok) hv)
      (by simp [seen])
  · exact Draft.once_then (if_neg hk) (Draft.list_ok (fun _ _ => LocalizedText.ofDraft_ok) hv)
      (by simp [seen])
  · exact Draft.once_then (if_neg hk) (Draft.textOrNull_ok hv) (by simp [seen])
  · exact Draft.once_then (if_neg hk) (Draft.textOrNull_ok hv) (by simp [seen])
  · exact Draft.once_then (if_neg hk) (Draft.nat_ok hv) (by simp [seen])
  · exact Draft.once_then (if_neg hk) (Draft.nat_ok hv) (by simp [seen])
  · have hs : field (r.seen ks) k v.draft = (do v.draft.skip; return r.seen ks) := by
      unfold field
      dsimp only
      split <;> first | contradiction | rfl
    rw [hs]
    exact Draft.skip_then v (by simp_all [seen, eq_comm (b := k)])

theorem ofDraft_ok (h : Describes v r) : ofDraft v.draft = .ok r := by
  obtain ⟨fs, rfl, h⟩ := h
  have hr : Draft.record names field {} (Json.draft (.obj fs)) = .ok (r.seen (fs.map (·.1))) :=
    Draft.record_seen r.field_seen h
  have h₁ : "id" ∈ fs.map (·.1) := h.mem not_false
  have h₂ : "description" ∉ fs.map (·.1) → r.description = "" := h.omitted
  have h₃ : "category" ∈ fs.map (·.1) := h.mem not_false
  have h₄ : "rarity" ∉ fs.map (·.1) → r.rarity = none := h.omitted
  have h₅ : "tags" ∉ fs.map (·.1) → r.tags = [] := h.omitted
  have h₆ : "hides" ∉ fs.map (·.1) → r.hides = [] := h.omitted
  have h₇ : "replaces" ∉ fs.map (·.1) → r.replaces = [] := h.omitted
  have h₈ : "representations" ∈ fs.map (·.1) := h.mem not_false
  have h₉ : "i18n" ∉ fs.map (·.1) → r.i18n = [] := h.omitted
  have h₁₀ : "thumbnail" ∉ fs.map (·.1) → r.thumbnail = none := h.omitted
  have h₁₁ : "image" ∉ fs.map (·.1) → r.image = none := h.omitted
  have h₁₂ : "createdAt" ∉ fs.map (·.1) → r.createdAt = 0 := h.omitted
  have h₁₃ : "updatedAt" ∉ fs.map (·.1) → r.updatedAt = 0 := h.omitted
  rw [ofDraft, hr, seen, if_pos h₁, if_pos h₃, if_pos h₈]
  simp only [bind, Except.bind, Draft.required, Draft.getD_given h₂, Draft.join_given h₄,
    Draft.getD_given h₅, Draft.getD_given h₆, Draft.getD_given h₇, Draft.getD_given h₉,
    Draft.join_given h₁₀, Draft.join_given h₁₁, Draft.getD_given h₁₂, Draft.getD_given h₁₃]
  rfl

theorem conforms (h : Describes v r) : CatalogDocument.recordConforms v = true := by
  obtain ⟨fs, rfl, h⟩ := h
  refine h.isObject (by simp [Lacks]) fun k v hv => ?_
  unfold Holds at hv
  split at hv
  · exact Schema.isText_iff.mpr ⟨_, hv⟩
  · exact Schema.isText_iff.mpr ⟨_, hv⟩
  · exact Schema.isText_iff.mpr ⟨_, hv⟩
  · exact hv.isTextOrNull
  · exact hv.isList
  · exact hv.isList
  · exact hv.isList
  · exact Json.Lists.isList (fun _ _ => Representation.conforms) hv
  · exact Json.Lists.isList (fun _ _ => LocalizedText.conforms) hv
  · exact hv.isTextOrNull
  · exact hv.isTextOrNull
  · exact hv.isWhole
  · exact hv.isWhole
  · simp_all

/-- One of the times of a record is there, and is not a natural number below `2 ^ 64` written as an
integer. -/
def IsMistimed (v : Json) : Prop :=
  ∃ fs name x, v = .obj fs ∧ (name, x) ∈ fs ∧ (name = "createdAt" ∨ name = "updatedAt") ∧
    ¬ ∃ i : Integer, x = .num (.int i) ∧ 0 ≤ i.val ∧ i.val < 0x1_0000_0000_0000_0000

theorem exists_natural {fs : List (String × Json)} (ht : ¬ IsMistimed (.obj fs)) {name : String}
    (hn : name = "createdAt" ∨ name = "updatedAt") {v : Json} (hv : (name, v) ∈ fs) :
    ∃ n, v.IsNatural n := by
  refine Classical.byContradiction fun hx => ht ⟨fs, name, v, rfl, hv, hn, ?_⟩
  rintro ⟨i, hi, hl, -⟩
  exact hx ⟨i.val.toNat, i, hi, (Int.toNat_of_nonneg hl).symm⟩

theorem exists_described (hv : v.isOrdered = true)
    (hc : CatalogDocument.recordConforms v = true) (ht : ¬ IsMistimed v) : ∃ r, Describes v r := by
  obtain ⟨fs, rfl, hr, hp⟩ := Json.isObject_iff.mp hc
  obtain ⟨ho, hi⟩ := Json.isOrdered_obj hv
  obtain ⟨id, h₁⟩ := Json.exists_required ho (hr "id" (by simp))
    fun v hv => Schema.isText_iff.mp (hp _ hv)
  obtain ⟨description, h₂⟩ := Json.exists_given ho "" fun v (hv : ("description", v) ∈ fs) =>
    Schema.isText_iff.mp (hp _ hv)
  obtain ⟨category, h₃⟩ := Json.exists_required ho (hr "category" (by simp))
    fun v hv => Schema.isText_iff.mp (hp _ hv)
  obtain ⟨rarity, h₄⟩ := Json.exists_given ho none fun v (hv : ("rarity", v) ∈ fs) =>
    Json.exists_textOrNull (hp _ hv)
  obtain ⟨tags, h₅⟩ := Json.exists_given ho [] fun v (hv : ("tags", v) ∈ fs) =>
    Json.exists_texts (hp _ hv) (hi _ hv)
  obtain ⟨hides, h₆⟩ := Json.exists_given ho [] fun v (hv : ("hides", v) ∈ fs) =>
    Json.exists_texts (hp _ hv) (hi _ hv)
  obtain ⟨replaces, h₇⟩ := Json.exists_given ho [] fun v (hv : ("replaces", v) ∈ fs) =>
    Json.exists_texts (hp _ hv) (hi _ hv)
  obtain ⟨representations, h₈⟩ := Json.exists_required ho (hr "representations" (by simp))
    fun v hv => Json.exists_lists (hp _ hv) (hi _ hv) fun _ => Representation.exists_described
  obtain ⟨i18n, h₉⟩ := Json.exists_given ho [] fun v (hv : ("i18n", v) ∈ fs) =>
    Json.exists_lists (hp _ hv) (hi _ hv) fun _ => LocalizedText.exists_described
  obtain ⟨thumbnail, h₁₀⟩ := Json.exists_given ho none fun v (hv : ("thumbnail", v) ∈ fs) =>
    Json.exists_textOrNull (hp _ hv)
  obtain ⟨image, h₁₁⟩ := Json.exists_given ho none fun v (hv : ("image", v) ∈ fs) =>
    Json.exists_textOrNull (hp _ hv)
  obtain ⟨createdAt, h₁₂⟩ := Json.exists_given ho 0 fun v (hv : ("createdAt", v) ∈ fs) =>
    exists_natural ht (.inl rfl) hv
  obtain ⟨updatedAt, h₁₃⟩ := Json.exists_given ho 0 fun v (hv : ("updatedAt", v) ∈ fs) =>
    exists_natural ht (.inr rfl) hv
  refine ⟨⟨id, description, category, rarity, tags, hides, replaces, representations, i18n,
    thumbnail, image, createdAt, updatedAt⟩, fs, rfl, Json.names_nodup ho,
    fun {name v} hf => ?_, fun {name} hf => ?_⟩
  · unfold Holds
    split
    · exact h₁.1 v hf
    · exact h₂.1 v hf
    · exact h₃.1 v hf
    · exact h₄.1 v hf
    · exact h₅.1 v hf
    · exact h₆.1 v hf
    · exact h₇.1 v hf
    · exact h₈.1 v hf
    · exact h₉.1 v hf
    · exact h₁₀.1 v hf
    · exact h₁₁.1 v hf
    · exact h₁₂.1 v hf
    · exact h₁₃.1 v hf
    · trivial
  · unfold Lacks
    split
    · exact h₁.2 hf
    · exact h₃.2 hf
    · exact h₈.2 hf
    · exact h₂.2 hf
    · exact h₄.2 hf
    · exact h₅.2 hf
    · exact h₆.2 hf
    · exact h₇.2 hf
    · exact h₉.2 hf
    · exact h₁₀.2 hf
    · exact h₁₁.2 hf
    · exact h₁₂.2 hf
    · exact h₁₃.2 hf
    · trivial

theorem Describes.times_lt (h : Describes v r) :
    r.createdAt < 0x1_0000_0000_0000_0000 ∧ r.updatedAt < 0x1_0000_0000_0000_0000 := by
  obtain ⟨fs, -, h⟩ := h
  have lt (name : String) (n : Nat) (hn : find? name fs = none → n = 0)
      (hs : ∀ v, (name, v) ∈ fs → v.IsNatural n) : n < 0x1_0000_0000_0000_0000 := by
    cases hv : find? name fs with
    | none => exact hn hv ▸ by decide
    | some v =>
      obtain ⟨i, -, hi⟩ := hs v (Config.mem_of_find? hv)
      have := i.high
      omega
  exact ⟨lt "createdAt" _ h.absent fun v => h.present, lt "updatedAt" _ h.absent fun v => h.present⟩

theorem IsMistimed.ofJson? (h : IsMistimed v) : ofJson? v = none := by
  obtain ⟨fs, name, x, rfl, hx, hn, hi⟩ := h
  rw [Record.ofJson?]
  cases hr : ofDraft (Json.draft (.obj fs)) with
  | error f => rfl
  | ok r =>
    obtain ⟨p, hp, -⟩ := bind_ok.mp hr
    rw [Draft.record_fields] at hp
    obtain ⟨t, t', ht⟩ := Draft.foldlM_steps hp (name, x) hx
    have hq : ∃ n, Draft.nat x.draft = .ok n := by
      obtain rfl | rfl := hn
      · obtain ⟨_, ho, -⟩ := bind_ok.mp ht
        exact Draft.once_read ho
      · obtain ⟨_, ho, -⟩ := bind_ok.mp ht
        exact Draft.once_read ho
    obtain ⟨n, hq⟩ := hq
    obtain ⟨i, rfl, hn⟩ := Draft.nat_draft hq
    exact absurd ⟨i, rfl, by omega, by have := i.high; omega⟩ hi

end Record

end Diorama
