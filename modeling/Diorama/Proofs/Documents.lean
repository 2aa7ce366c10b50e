import Diorama.Proofs.Records

namespace Diorama

namespace Json

/-- A value that is written as a text, without binary numbers, and that nests so deep at most. -/
structure Writes (text : List Char) (depth : Nat) (v : Json) : Prop where
  exact : v.isExact = true
  render : v.render = text
  height : v.height ≤ depth

namespace Writes

variable {n : Nat}

theorem str (s : String) : Writes (quote s) n (.str s) := ⟨rfl, rfl, Nat.zero_le n⟩

theorem natural {k : Nat} (h : k < 0x1_0000_0000_0000_0000) :
    Writes (Nat.toDigits 10 k) n (natural k h) := ⟨rfl, natural_render h, Nat.zero_le n⟩

theorem arr {ts : List (List Char)} {vs : List Json}
    (h : List.Forall₂ (fun t v => Writes t n v) ts vs) : Writes (bracket ts) (n + 1) (.arr vs) := by
  have hi : isExactItems vs = true ∧ renderItems vs = ts ∧ heightItems vs ≤ n := by
    induction h with
    | nil => exact ⟨rfl, rfl, Nat.zero_le n⟩
    | @cons t v ts vs hv _ ih =>
      obtain ⟨hx, hr, hh⟩ := ih
      simp only [isExactItems, renderItems, heightItems, hv.exact, hv.render, hx, hr,
        Bool.and_self, Nat.max_le, hv.height, hh, and_self]
  refine ⟨hi.1, ?_, Nat.succ_le_succ hi.2.2⟩
  rw [Json.render, hi.2.1]

theorem map {α : Type} {text : α → List Char} {value : α → Json} (as : List α)
    (h : ∀ a, Writes (text a) n (value a)) :
    Writes (bracket (as.map text)) (n + 1) (.arr (as.map value)) := by
  refine arr ?_
  rw [List.forall₂_map_left_iff, List.forall₂_map_right_iff, List.forall₂_same]
  exact fun a _ => h a

theorem texts (ss : List String) : Writes (quoteAll ss) (n + 1) (.arr (ss.map .str)) := map ss str

theorem textOrNull (s? : Option String) : Writes (quoteOrNull s?) n ((s?.map .str).getD .null) := by
  cases s? with
  | none => exact ⟨rfl, rfl, Nat.zero_le n⟩
  | some s => exact str s

theorem obj {ts : List (String × List Char)} {fs : List (String × Json)}
    (h : List.Forall₂ (fun t f => t.1 = f.1 ∧ Writes t.2 n f.2) ts fs) :
    Writes (brace ts) (n + 1) (.obj fs) := by
  have hi : isExactFields fs = true ∧ renderFields fs = ts ∧ heightFields fs ≤ n := by
    induction h with
    | nil => exact ⟨rfl, rfl, Nat.zero_le n⟩
    | @cons t f ts fs hf _ ih =>
      obtain ⟨hk, hf⟩ := hf
      obtain ⟨hx, hr, hh⟩ := ih
      simp only [isExactFields, renderFields, heightFields, hf.exact, hf.render, hx, hr, ← hk,
        Bool.and_self, Nat.max_le, hf.height, hh, and_self]
  refine ⟨hi.1, ?_, Nat.succ_le_succ hi.2.2⟩
  rw [Json.render, hi.2.1]

theorem parse {text : List Char} {v : Json} (h : Writes text n v) (hn : n ≤ room) :
    parse text = .ok v.tidy := by
  rw [Json.parse, ← h.render, Draft.decode_render _ h.exact, Draft.value_tidy]
  exact if_pos (Nat.le_trans h.height hn)

end Writes

theorem find?_foldl_put {α : Type} {k : String} {acc fs : List (String × α)}
    (h : find? k (fs.foldl (fun fs f => put f.1 f.2 fs) acc) = none) :
    find? k acc = none ∧ find? k fs = none := by
  induction fs generalizing acc with
  | nil => exact ⟨h, rfl⟩
  | cons f fs ih =>
    obtain ⟨ha, hs⟩ := ih h
    rw [find?_put] at ha
    split at ha
    · cases ha
    · rename_i hk
      exact ⟨ha, by rw [find?, if_neg hk, hs]⟩

theorem Says.ofFields {holds : String → Json → Prop} {lacks : String → Prop}
    {fs : List (String × Json)} (hp : ∀ f ∈ fs, holds f.1 f.2)
    (ha : ∀ k, find? k fs = none → lacks k) :
    ∃ gs, Json.ofFields fs = .obj gs ∧ Says holds lacks gs := by
  refine ⟨_, rfl, names_nodup (foldl_put_pairwise .nil), fun hf => ?_, fun hf => ?_⟩
  · exact hp _ ((mem_foldl_put hf).resolve_left List.not_mem_nil)
  · exact ha _ (find?_foldl_put hf).2

theorem tidyItems_eq (xs : List Json) : tidyItems xs = xs.map tidy := by
  induction xs with
  | nil => rfl
  | cons x xs ih => rw [tidyItems, ih, List.map_cons]

theorem tidyFields_eq (fs : List (String × Json)) :
    tidyFields fs = fs.map fun f => (f.1, f.2.tidy) := by
  induction fs with
  | nil => rfl
  | cons f fs ih => rw [tidyFields, ih, List.map_cons]

theorem lists_tidy {α : Type} {p : Json → α → Prop} {f : α → Json} (as : List α)
    (h : ∀ a, p (f a).tidy a) : (tidy (.arr (as.map f))).Lists p as := by
  rw [tidy, tidyItems_eq]
  refine ⟨_, rfl, ?_⟩
  rw [List.forall₂_map_left_iff, List.forall₂_map_left_iff, List.forall₂_same]
  exact fun a _ => h a

theorem textOrNull_tidy (s? : Option String) :
    (tidy ((s?.map .str).getD .null)).TextOrNull s? := by
  cases s? <;> rfl

theorem texts_tidy (ss : List String) : (tidy (.arr (ss.map .str))).Texts ss :=
  lists_tidy ss fun _ => rfl

end Json

namespace ContentEntry

def written (c : ContentEntry) : Json := .obj [("file", .str c.file), ("hash", .str c.hash)]

theorem writes (c : ContentEntry) (n : Nat) : Json.Writes c.render (n + 1) c.written :=
  .obj (.cons ⟨rfl, .str _⟩ (.cons ⟨rfl, .str _⟩ .nil))

theorem describes_written (c : ContentEntry) : Describes c.written.tidy c := by
  refine Json.Says.ofFields ?_ fun k hk => ?_
  · simp only [Json.tidyFields, List.forall_mem_cons]
    exact ⟨rfl, rfl, List.forall_mem_nil _⟩
  · unfold Lacks
    split <;> first | cases hk | trivial

end ContentEntry

namespace LocalizedText

def written (t : LocalizedText) : Json := .obj [("code", .str t.code), ("text", .str t.text)]

theorem writes (t : LocalizedText) (n : Nat) : Json.Writes t.render (n + 1) t.written :=
  .obj (.cons ⟨rfl, .str _⟩ (.cons ⟨rfl, .str _⟩ .nil))

theorem describes_written (t : LocalizedText) : Describes t.written.tidy t := by
  refine Json.Says.ofFields ?_ fun k hk => ?_
  · simp only [Json.tidyFields, List.forall_mem_cons]
    exact ⟨rfl, rfl, List.forall_mem_nil _⟩
  · unfold Lacks
    split <;> first | cases hk | trivial

end LocalizedText

namespace Representation

def written (r : Representation) : Json := .obj [
  ("bodyShapes", .arr (r.bodyShapes.map .str)),
  ("mainFile", .str r.mainFile),
  ("contents", .arr (r.contents.map ContentEntry.written)),
  ("overrideHides", .arr (r.overrideHides.map .str)),
  ("overrideReplaces", .arr (r.overrideReplaces.map .str))]

theorem writes (r : Representation) (n : Nat) : Json.Writes r.render (n + 3) r.written :=
  .obj (.cons ⟨rfl, .texts _⟩ (.cons ⟨rfl, .str _⟩ (.cons ⟨rfl, .map _ fun c => c.writes n⟩
    (.cons ⟨rfl, .texts _⟩ (.cons ⟨rfl, .texts _⟩ .nil)))))

theorem describes_written (r : Representation) : Describes r.written.tidy r := by
  refine Json.Says.ofFields ?_ fun k hk => ?_
  · simp only [Json.tidyFields, List.forall_mem_cons]
    exact ⟨Json.texts_tidy _, rfl, Json.lists_tidy _ ContentEntry.describes_written,
      Json.texts_tidy _, Json.texts_tidy _, List.forall_mem_nil _⟩
  · unfold Lacks
    split <;> first | cases hk | trivial

end Representation

namespace Record

section
variable (r : Record) (hr : r.createdAt < 0x1_0000_0000_0000_0000 ∧
  r.updatedAt < 0x1_0000_0000_0000_0000)

def written : Json := .obj [
  ("id", .str r.id),
  ("description", .str r.description),
  ("category", .str r.category),
  ("rarity", (r.rarity.map .str).getD .null),
  ("tags", .arr (r.tags.map .str)),
  ("hides", .arr (r.hides.map .str)),
  ("replaces", .arr (r.replaces.map .str)),
  ("representations", .arr (r.representations.map Representation.written)),
  ("i18n", .arr (r.i18n.map LocalizedText.written)),
  ("thumbnail", (r.thumbnail.map .str).getD .null),
  ("image", (r.image.map .str).getD .null),
  ("createdAt", .natural r.createdAt hr.1),
  ("updatedAt", .natural r.updatedAt hr.2)]

theorem writes (n : Nat) : Json.Writes r.render (n + 5) (r.written hr) :=
  .obj (.cons ⟨rfl, .str _⟩ (.cons ⟨rfl, .str _⟩ (.cons ⟨rfl, .str _⟩ (.cons ⟨rfl, .textOrNull _⟩
    (.cons ⟨rfl, .texts _⟩ (.cons ⟨rfl, .texts _⟩ (.cons ⟨rfl, .texts _⟩
    (.cons ⟨rfl, .map _ fun p => p.writes n⟩ (.cons ⟨rfl, .map _ fun t => t.writes (n + 2)⟩
    (.cons ⟨rfl, .textOrNull _⟩ (.cons ⟨rfl, .textOrNull _⟩ (.cons ⟨rfl, .natural hr.1⟩
    (.cons ⟨rfl, .natural hr.2⟩ .nil)))))))))))))

theorem describes_written : Describes (r.written hr).tidy r := by
  refine Json.Says.ofFields ?_ fun k hk => ?_
  · simp only [Json.tidyFields, List.forall_mem_cons]
    exact ⟨rfl, rfl, rfl, Json.textOrNull_tidy _, Json.texts_tidy _, Json.texts_tidy _,
      Json.texts_tidy _, Json.lists_tidy _ Representation.describes_written,
      Json.lists_tidy _ LocalizedText.describes_written, Json.textOrNull_tidy _,
      Json.textOrNull_tidy _, ⟨_, rfl, rfl⟩, ⟨_, rfl, rfl⟩, List.forall_mem_nil _⟩
  · unfold Lacks
    split <;> first | cases hk | trivial

end

end Record

section
variable {α β : Type} {f : α → Option β} {as : List α}

theorem names_forall₂ {p : String × α → String × β → Prop} {es : List (String × α)}
    {fs : List (String × β)} (hp : ∀ e f, p e f → e.1 = f.1) (h : List.Forall₂ p es fs) :
    es.map (·.1) = fs.map (·.1) := by
  induction h with
  | nil => rfl
  | cons ha _ ih => rw [List.map_cons, List.map_cons, hp _ _ ha, ih]

theorem mapM_forall₂ {bs : List β} (h : List.Forall₂ (fun a b => f a = some b) as bs) :
    as.mapM f = some bs := by
  induction h with
  | nil => rfl
  | cons ha _ ih =>
    rw [List.mapM_cons, ha, ih]
    rfl

theorem mapM_none {a : α} (ha : a ∈ as) (h : f a = none) : as.mapM f = none := by
  induction as with
  | nil => cases ha
  | cons b as ih =>
    rw [List.mapM_cons]
    cases ha with
    | head =>
      rw [h]
      rfl
    | tail _ ha =>
      rw [ih ha]
      cases f b <;> rfl

end

theorem Table.ofList_entries {α : Type} (t : Table String α) : ofList t.entries = t := by
  have he : (ofList t.entries).entries = t.entries.foldl (fun es e => put e.1 e.2 es) [] :=
    (List.foldl_hom Table.entries fun _ _ => rfl).symm
  rw [Json.foldl_put_ordered t.ordered, List.nil_append] at he
  exact ext_get? fun k => by rw [get?, get?, he]

namespace CatalogDocument

def recordsOf : Json → List Json
  | .arr vs => vs
  | .obj fs => fs.map (·.2)
  | _ => []

/-- A document says of each of its records what it is, in order or by its key. -/
inductive Describes : Json → CatalogDocument → Prop
  | list {vs : List Json} {rs : List Record} (h : List.Forall₂ Record.Describes vs rs) :
      Describes (.arr vs) (.list rs)
  | keyed {fs : List (String × Json)} {t : Table String Record}
      (h : List.Forall₂ (fun f e => f.1 = e.1 ∧ Record.Describes f.2 e.2) fs t.entries) :
      Describes (.obj fs) (.keyed t)

variable {v : Json} {d : CatalogDocument}

theorem record_ofJson? {x : Json} {r : Record} (h : Record.Describes x r) :
    Record.ofJson? x = some r := by
  rw [Record.ofJson?, Record.ofDraft_ok h]
  rfl

theorem Describes.conforms (h : Describes v d) : CatalogDocument.conforms v = true := by
  cases h with
  | @list vs rs h =>
    have hl : Schema.isList recordConforms (.arr vs) = true :=
      Json.Lists.isList (fun _ _ => Record.conforms) ⟨vs, rfl, h⟩
    rw [CatalogDocument.conforms, hl, Bool.true_or]
  | @keyed fs t h =>
    have ho : Schema.isObject [] (fun _ => recordConforms) (.obj fs) = true := by
      refine Json.isObject_iff.mpr ⟨fs, rfl, nofun, ?_⟩
      exact Json.forall_of_forall₂ (fun f e he => Record.conforms he.2) h
    rw [CatalogDocument.conforms, ho, Bool.or_true]

theorem Describes.ofJson? (h : Describes v d) : CatalogDocument.ofJson? v = some d := by
  cases h with
  | list h =>
    rw [CatalogDocument.ofJson?, mapM_forall₂ (h.imp fun _ _ => record_ofJson?)]
    rfl
  | @keyed fs t h =>
    have hm : fs.mapM (fun f => do return (f.1, ← Record.ofJson? f.2)) = some t.entries := by
      refine mapM_forall₂ (h.imp fun f e he => ?_)
      rw [record_ofJson? he.2, he.1]
      rfl
    rw [CatalogDocument.ofJson?, hm]
    exact congrArg (fun t => some (CatalogDocument.keyed t)) t.ofList_entries

theorem Describes.ofJson (h : Describes v d) : CatalogDocument.ofJson v = .ok d := by
  rw [CatalogDocument.ofJson, if_pos h.conforms, h.ofJson?]

theorem conforms_cases (h : conforms v = true) :
    (∃ vs, v = .arr vs ∧ ∀ x ∈ vs, recordConforms x = true) ∨
      ∃ fs, v = .obj fs ∧ ∀ f ∈ fs, recordConforms f.2 = true := by
  cases v with
  | arr vs =>
    simp only [conforms, Schema.isObject, Bool.or_false] at h
    exact .inl ⟨vs, rfl, List.all_eq_true.mp h⟩
  | obj fs =>
    simp only [conforms, Schema.isList, Bool.false_or] at h
    obtain ⟨_, hf, -, hp⟩ := Json.isObject_iff.mp h
    exact .inr ⟨_, hf, hp⟩
  | _ => cases h

theorem exists_described (hv : v.isOrdered = true) (hc : conforms v = true)
    (ht : ∀ x ∈ recordsOf v, ¬ Record.IsMistimed x) : ∃ d, Describes v d := by
  obtain ⟨vs, rfl, hp⟩ | ⟨fs, rfl, hp⟩ := conforms_cases hc
  · obtain ⟨rs, h⟩ := Json.exists_forall₂ fun x hx =>
      Record.exists_described (Json.isOrdered_arr hv x hx) (hp x hx) (ht x hx)
    exact ⟨.list rs, .list h⟩
  · obtain ⟨ho, hi⟩ := Json.isOrdered_obj hv
    have he : ∀ f ∈ fs, ∃ e : String × Record, f.1 = e.1 ∧ Record.Describes f.2 e.2 := by
      intro f hf
      obtain ⟨r, hr⟩ := Record.exists_described (hi f hf) (hp f hf)
        (ht f.2 (List.mem_map_of_mem hf))
      exact ⟨(f.1, r), rfl, hr⟩
    obtain ⟨es, h⟩ := Json.exists_forall₂ he
    have hs : (es.map (·.1)).Pairwise (· < ·) :=
      names_forall₂ (fun _ _ => And.left) h ▸ List.pairwise_map.mpr ho
    exact ⟨.keyed ⟨es, List.pairwise_map.mp hs⟩, .keyed h⟩

theorem ofJson?_mistimed {x : Json} (hx : x ∈ recordsOf v) (ht : Record.IsMistimed x) :
    ofJson? v = none := by
  cases v with
  | arr vs =>
    have hn : vs.mapM Record.ofJson? = none := mapM_none hx ht.ofJson?
    rw [ofJson?, hn]
    rfl
  | obj fs =>
    obtain ⟨f, hf, rfl⟩ := List.mem_map.mp hx
    have hn : fs.mapM (fun f => do return (f.1, ← Record.ofJson? f.2)) = none :=
      mapM_none hf (by rw [ht.ofJson?]; rfl)
    rw [ofJson?, hn]
    rfl
  | _ => cases hx

/-- The times of all records fit a word. -/
def IsTimed (d : CatalogDocument) : Prop :=
  ∀ r ∈ d.records, r.createdAt < 0x1_0000_0000_0000_0000 ∧ r.updatedAt < 0x1_0000_0000_0000_0000

theorem Describes.isTimed (h : Describes v d) : d.IsTimed := by
  cases h with
  | list h => exact Json.forall_of_forall₂ (fun r x hr => Record.Describes.times_lt hr) h.flip
  | keyed h =>
    refine List.forall_mem_map.mpr ?_
    exact Json.forall_of_forall₂ (fun e f he => Record.Describes.times_lt he.2) h.flip

theorem Describes.size (h : Describes v d) : d.size = (recordsOf v).length := by
  cases h with
  | list h => exact h.length_eq.symm
  | keyed h => rw [CatalogDocument.size, records, Table.values, recordsOf, List.length_map,
      List.length_map, h.length_eq]

theorem written (hd : d.IsTimed) : ∃ v, Json.Writes d.render 6 v ∧ Describes v.tidy d := by
  have hw (r : Record) (hr : r ∈ d.records) :
      ∃ v, Json.Writes r.render 5 v ∧ Record.Describes v.tidy r :=
    ⟨r.written (hd r hr), r.writes _ 0, r.describes_written _⟩
  cases d with
  | list rs =>
    obtain ⟨vs, h⟩ := Json.exists_forall₂ hw
    refine ⟨.arr vs, .arr ?_, ?_⟩
    · rw [List.forall₂_map_left_iff]
      exact h.imp fun _ _ => And.left
    · rw [Json.tidy, Json.tidyItems_eq]
      refine .list ?_
      rw [List.forall₂_map_left_iff]
      exact (h.imp fun _ _ => And.right).flip
  | keyed t =>
    have he : ∀ e ∈ t.entries, ∃ f : String × Json,
        e.1 = f.1 ∧ Json.Writes e.2.render 5 f.2 ∧ Record.Describes f.2.tidy e.2 := by
      intro e he
      obtain ⟨v, hv⟩ := hw e.2 (List.mem_map_of_mem he)
      exact ⟨(e.1, v), rfl, hv⟩
    obtain ⟨fs, h⟩ := Json.exists_forall₂ he
    have hs : (fs.map (·.1)).Pairwise (· < ·) :=
      names_forall₂ (fun _ _ => And.left) h ▸ List.pairwise_map.mpr t.ordered
    have ho : (Json.tidyFields fs).Pairwise (·.1 < ·.1) := by
      rw [Json.tidyFields_eq, List.pairwise_map]
      exact List.pairwise_map.mp hs
    refine ⟨.obj fs, .obj ?_, ?_⟩
    · rw [List.forall₂_map_left_iff]
      exact h.imp fun _ _ hf => ⟨hf.1, hf.2.1⟩
    · rw [Json.tidy, Json.ofFields_ordered ho, Json.tidyFields_eq]
      refine .keyed ?_
      rw [List.forall₂_map_left_iff]
      exact (h.imp fun _ _ hf => ⟨hf.1.symm, hf.2.2⟩).flip

theorem load_render (hd : d.IsTimed) : load (.text (.ofList d.render)) = .ok d := by
  obtain ⟨v, hw, hv⟩ := written hd
  have hj : Source.json (.text (.ofList d.render)) = .ok v.tidy := by
    rw [Source.json_text, String.toList_ofList, hw.parse (by decide)]
    rfl
  rw [load, hj]
  exact hv.ofJson

/-- Of the documents that the schema lets pass, whose objects have their fields in order as in every
document that was read from a text, just those cannot be read that have a time which is not written
as an integer below `2 ^ 64`. All others are read as what they say: as a list or by key as they are
written, with a record for each of their values, with each field that is there and with its default
for each that is not. What was read can be written and is read back as it was. -/
theorem documents_agree_with_schema (v : Json) (hv : v.isOrdered = true) (hc : conforms v = true) :
    ((∃ e, ofJson v = .error e) ↔ ∃ x ∈ recordsOf v, Record.IsMistimed x) ∧
    ∀ d, ofJson v = .ok d →
      Describes v d ∧
      ((∃ rs, d = .list rs) ↔ ∃ vs, v = .arr vs) ∧
      ((∃ t, d = .keyed t) ↔ ∃ fs, v = .obj fs) ∧
      d.size = (recordsOf v).length ∧
      load (.text (.ofList d.render)) = .ok d := by
  have read (hn : ¬ ∃ x ∈ recordsOf v, Record.IsMistimed x) : ∃ d, Describes v d :=
    exists_described hv hc fun x hx ht => hn ⟨x, hx, ht⟩
  have mistimed (ht : ∃ x ∈ recordsOf v, Record.IsMistimed x) :
      ofJson v = .error (.unreadable .mismatch) := by
    obtain ⟨x, hx, ht⟩ := ht
    rw [ofJson, if_pos hc, ofJson?_mistimed hx ht]
  refine ⟨⟨fun h => ?_, fun ht => ⟨_, mistimed ht⟩⟩, fun d hd => ?_⟩
  · obtain ⟨e, he⟩ := h
    refine Classical.byContradiction fun hn => ?_
    obtain ⟨d, hd⟩ := read hn
    rw [hd.ofJson] at he
    cases he
  · have hn : ¬ ∃ x ∈ recordsOf v, Record.IsMistimed x := fun ht => by
      rw [mistimed ht] at hd
      cases hd
    obtain ⟨d', hd'⟩ := read hn
    rw [hd'.ofJson] at hd
    obtain rfl := Except.ok.inj hd
    refine ⟨hd', ?_, ?_, hd'.size, load_render hd'.isTimed⟩
    · cases hd' <;> simp
    · cases hd' <;> simp

/-- A record is read by its key. It is not read with a time that is written with a point, although
the schema takes this for an integer. -/
theorem documents_agree_with_schema_times :
    let hat (time : Json) : Json := .obj [("hat", .obj [("category", .str "hat"),
      ("createdAt", time), ("id", .str "h"), ("representations", .arr [])])]
    (∃ t, ofJson (hat (.natural 5 (by decide))) = .ok (.keyed t) ∧ t.entries.length = 1 ∧
      load (.text (.ofList (render (.keyed t)))) = .ok (.keyed t)) ∧
    ∃ e, ofJson (hat (.num (.float ⟨0x3ff0000000000000⟩))) = .error e := by
  intro hat
  let five : Json := .natural 5 (by decide)
  let one : Json := .num (.float ⟨0x3ff0000000000000⟩)
  obtain ⟨-, hv⟩ := documents_agree_with_schema (hat five) (by decide) (by decide +kernel)
  obtain ⟨hw, -⟩ := documents_agree_with_schema (hat one) (by decide) (by decide +kernel)
  have hm : Record.IsMistimed (.obj [("category", .str "hat"), ("createdAt", one), ("id", .str "h"),
      ("representations", .arr [])]) := by
    refine ⟨_, "createdAt", one, rfl, .tail _ (.head _), .inl rfl, ?_⟩
    rintro ⟨i, hi, -⟩
    simp [one] at hi
  refine ⟨?_, hw.mpr ⟨_, .head _, hm⟩⟩
  have ho : (ofJson (hat five)).toOption.isSome = true := by decide +kernel
  obtain ⟨d, hd⟩ : ∃ d, ofJson (hat five) = .ok d := by
    cases hd : ofJson (hat five) with
    | error e =>
      rw [hd] at ho
      cases ho
    | ok d => exact ⟨d, rfl⟩
  obtain ⟨-, -, hk, hs, hl⟩ := hv d hd
  obtain ⟨t, rfl⟩ := hk.mpr ⟨_, rfl⟩
  exact ⟨t, hd, by simpa [size, records, Table.values, recordsOf, hat] using hs, hl⟩

end CatalogDocument

end Diorama
