import Diorama.Proofs.JsonText
import Diorama.Wire.Batch
import Diorama.Wire.HostMessage

namespace Diorama

namespace Json

theorem put_last {α : Type} {k : String} {a : α} {es : List (String × α)}
    (h : ∀ e ∈ es, e.1 < k) : put k a es = es ++ [(k, a)] := by
  induction es with
  | nil => rfl
  | cons e es ih =>
    obtain ⟨he, hs⟩ := List.forall_mem_cons.mp h
    have hk : k ≠ e.1 := fun hk => Std.lt_irrefl (hk ▸ he)
    rw [put, if_neg (Std.not_lt.mpr (Std.le_of_lt he)), if_neg hk, ih hs, List.cons_append]

theorem foldl_put_ordered {α : Type} {acc fs : List (String × α)}
    (hf : (acc ++ fs).Pairwise (·.1 < ·.1)) :
    fs.foldl (fun fs f => put f.1 f.2 fs) acc = acc ++ fs := by
  induction fs generalizing acc with
  | nil => exact (List.append_nil acc).symm
  | cons f fs ih =>
    have hl : ∀ e ∈ acc, e.1 < f.1 := fun e he =>
      (List.pairwise_append.mp hf).2.2 e he f List.mem_cons_self
    rw [List.append_cons] at hf ⊢
    rw [List.foldl_cons, put_last hl, ih hf]

theorem mem_foldl_put {α : Type} {acc fs : List (String × α)} {e : String × α}
    (h : e ∈ fs.foldl (fun fs f => put f.1 f.2 fs) acc) : e ∈ acc ∨ e ∈ fs := by
  induction fs generalizing acc with
  | nil => exact .inl h
  | cons f fs ih =>
    obtain h | h := ih h
    · exact (mem_put h).elim (fun he => .inr (he ▸ .head _)) .inl
    · exact .inr (.tail _ h)

theorem foldl_put_pairwise {α : Type} {acc fs : List (String × α)}
    (h : acc.Pairwise (·.1 < ·.1)) :
    (fs.foldl (fun fs f => put f.1 f.2 fs) acc).Pairwise (·.1 < ·.1) := by
  induction fs generalizing acc with
  | nil => exact h
  | cons f fs ih => exact ih (put_pairwise h)

theorem ofFields_ordered {fs : List (String × Json)} (hf : fs.Pairwise (·.1 < ·.1)) :
    ofFields fs = .obj fs := congrArg obj (foldl_put_ordered hf)

mutual

def isOrdered : Json → Bool
  | .arr xs => isOrderedItems xs
  | .obj fs => decide (fs.Pairwise (·.1 < ·.1)) && isOrderedFields fs
  | _ => true

def isOrderedItems : List Json → Bool
  | [] => true
  | x :: xs => isOrdered x && isOrderedItems xs

def isOrderedFields : List (String × Json) → Bool
  | [] => true
  | (_, x) :: fs => isOrdered x && isOrderedFields fs

end

mutual

/-- The value with the fields of all objects in it in order, as it is read from a text. -/
def tidy : Json → Json
  | .arr xs => .arr (tidyItems xs)
  | .obj fs => .ofFields (tidyFields fs)
  | v => v

def tidyItems : List Json → List Json
  | [] => []
  | x :: xs => tidy x :: tidyItems xs

def tidyFields : List (String × Json) → List (String × Json)
  | [] => []
  | (k, x) :: fs => (k, tidy x) :: tidyFields fs

end

mutual

theorem tidy_ordered : ∀ v : Json, v.isOrdered = true → v.tidy = v
  | .null, _ | .bool _, _ | .num _, _ | .str _, _ => rfl
  | .arr xs, ho => by
    rw [tidy, tidyItems_ordered xs ho]
  | .obj fs, ho => by
    rw [isOrdered, Bool.and_eq_true, decide_eq_true_eq] at ho
    rw [tidy, tidyFields_ordered fs ho.2, ofFields_ordered ho.1]

theorem tidyItems_ordered : ∀ xs : List Json, isOrderedItems xs = true → tidyItems xs = xs
  | [], _ => rfl
  | x :: xs, ho => by
    rw [isOrderedItems, Bool.and_eq_true] at ho
    rw [tidyItems, tidy_ordered x ho.1, tidyItems_ordered xs ho.2]

theorem tidyFields_ordered : ∀ fs : List (String × Json), isOrderedFields fs = true →
    tidyFields fs = fs
  | [], _ => rfl
  | (k, x) :: fs, ho => by
    rw [isOrderedFields, Bool.and_eq_true] at ho
    rw [tidyFields, tidy_ordered x ho.1, tidyFields_ordered fs ho.2]

end

theorem isOrderedFields_iff {fs : List (String × Json)} :
    isOrderedFields fs = true ↔ ∀ f ∈ fs, f.2.isOrdered = true := by
  induction fs with
  | nil => simp [isOrderedFields]
  | cons f fs ih =>
    rw [isOrderedFields, Bool.and_eq_true, ih, List.forall_mem_cons]

theorem ofFields_isOrdered {fs : List (String × Json)} (h : ∀ f ∈ fs, f.2.isOrdered = true) :
    (ofFields fs).isOrdered = true := by
  rw [ofFields, isOrdered, Bool.and_eq_true, decide_eq_true_eq, isOrderedFields_iff]
  refine ⟨foldl_put_pairwise .nil, fun f hf => ?_⟩
  exact h f ((mem_foldl_put hf).resolve_left List.not_mem_nil)

end Json

namespace Draft

variable {α β γ : Type}

def fits (room height : Nat) (a : α) : Except Fault α :=
  if height ≤ room then .ok a else .error .malformed

theorem fits_zero (room : Nat) (a : α) : fits room 0 a = .ok a := if_pos (Nat.zero_le room)

theorem fits_succ (room n : Nat) (a : α) : fits (room + 1) (n + 1) a = fits room n a := by
  simp only [fits, Nat.add_le_add_iff_right]

theorem once_fits {room n : Nat} {read : Draft → Except Fault α} {d : Draft} {a : α}
    (h : read d = fits room n a) : once none read d = fits room n (some a) := by
  simp only [once, h, fits]
  split <;> rfl

theorem fits_then {room n : Nat} {a : α} {f : α → Except Fault β} {b : β} (h : f a = .ok b) :
    (fits room n a >>= f) = fits room n b := by
  simp only [fits]
  split
  · exact h
  · rfl

theorem fits_bind {room m n : Nat} {a : α} {f : α → Except Fault β} {b : β}
    (h : f a = fits room n b) : (fits room m a >>= f) = fits room (max m n) b := by
  simp only [fits, Nat.max_le] at h ⊢
  by_cases hm : m ≤ room
  · simp only [hm, true_and, if_true]
    exact h
  · simp only [hm, false_and, if_false]
    rfl

section
variable {σ : Type} {step : σ → β → Except Fault σ} {s s' t : σ} {x : β} {xs : List β}

theorem foldlM_ok (h : step s x = .ok s') : (x :: xs).foldlM step s = xs.foldlM step s' := by
  rw [List.foldlM_cons, h]
  rfl

theorem foldlM_fits {room m n : Nat} (h : step s x = fits room m s')
    (hs : xs.foldlM step s' = fits room n t) :
    (x :: xs).foldlM step s = fits room (max m n) t := by
  rw [List.foldlM_cons, h]
  exact fits_bind hs

theorem foldlM_nil_fits (room : Nat) : [].foldlM step s = fits room 0 s := (fits_zero room s).symm

end

open Json in
mutual

theorem value_tidy : ∀ (v : Json) (room : Nat), v.draft.value room = fits room v.height v.tidy
  | .null, room | .bool _, room | .num _, room | .str _, room => (fits_zero room _).symm
  | .arr xs, 0 | .obj fs, 0 => rfl
  | .arr xs, room + 1 => by
    rw [draft, value, items_tidy xs room, height, fits_succ]
    exact fits_then rfl
  | .obj fs, room + 1 => by
    rw [draft, value, fields_tidy fs room, height, fits_succ]
    exact fits_then rfl

theorem items_tidy : ∀ (xs : List Json) (room : Nat),
    items (draftItems xs) room = fits room (heightItems xs) (tidyItems xs)
  | [], room => (fits_zero room _).symm
  | x :: xs, room => by
    rw [draftItems, items, value_tidy x room, items_tidy xs room]
    exact fits_bind (fits_then rfl)

theorem fields_tidy : ∀ (fs : List (String × Json)) (room : Nat),
    fields (draftFields fs) room = fits room (heightFields fs) (tidyFields fs)
  | [], room => (fits_zero room _).symm
  | (k, x) :: fs, room => by
    rw [draftFields, fields, value_tidy x room, fields_tidy fs room]
    exact fits_bind (fits_then rfl)

end

theorem value_draft (v : Json) (room : Nat) (ho : v.isOrdered = true) :
    v.draft.value room = fits room v.height v := by
  rw [value_tidy, Json.tidy_ordered v ho]

mutual

theorem value_isOrdered : ∀ (d : Draft) (room : Nat) (v : Json), d.value room = .ok v →
    v.isOrdered = true
  | .null, _, _, rfl => rfl
  | .bool _, _, _, rfl => rfl
  | .num (some _), _, _, rfl => rfl
  | .str (.ok _), _, _, rfl => rfl
  | .arr xs stop, room + 1, v, h => by
    obtain ⟨vs, hv, h⟩ := bind_ok.mp h
    obtain ⟨_, _, h⟩ := bind_ok.mp h
    cases h
    exact items_isOrdered xs room vs hv
  | .obj fs stop, room + 1, v, h => by
    obtain ⟨vs, hv, h⟩ := bind_ok.mp h
    obtain ⟨_, _, h⟩ := bind_ok.mp h
    cases h
    exact Json.ofFields_isOrdered (fields_isOrdered fs room vs hv)

theorem items_isOrdered : ∀ (ds : List Draft) (room : Nat) (vs : List Json),
    items ds room = .ok vs → Json.isOrderedItems vs = true
  | [], _, _, rfl => rfl
  | d :: ds, room, vs, h => by
    obtain ⟨v, hv, h⟩ := bind_ok.mp h
    obtain ⟨ws, hw, h⟩ := bind_ok.mp h
    cases h
    rw [Json.isOrderedItems, value_isOrdered d room v hv, items_isOrdered ds room ws hw,
      Bool.and_self]

theorem fields_isOrdered : ∀ (fs : List (Except Fault String × Draft)) (room : Nat)
    (vs : List (String × Json)), fields fs room = .ok vs → ∀ f ∈ vs, f.2.isOrdered = true
  | [], _, _, rfl => nofun
  | (k, d) :: fs, room, vs, h => by
    obtain ⟨k, _, h⟩ := bind_ok.mp h
    obtain ⟨v, hv, h⟩ := bind_ok.mp h
    obtain ⟨ws, hw, h⟩ := bind_ok.mp h
    cases h
    exact List.forall_mem_cons.mpr ⟨value_isOrdered d room v hv, fields_isOrdered fs room ws hw⟩

end

theorem decode_render (f : Draft → Except Fault α) {v : Json} (hv : v.isExact = true) :
    decode f v.render = f v.draft := by
  have hr := read_render v hv (2 * v.render.length + 2) .nil (by omega)
  rw [List.append_nil] at hr
  rw [decode, hr]
  cases h : f v.draft <;> simp [h, blanks]

theorem decode_ok {α : Type} {f : Draft → Except Fault α} {s : List Char} {a : α}
    (h : decode f s = .ok a) : ∃ d, f d = .ok a := by
  rw [decode] at h
  obtain ⟨b, hb, h⟩ := bind_ok.mp h
  split at h
  · cases h
  · cases h
    exact ⟨_, hb⟩

def tagStep (tag : String) (known : String → Bool) (room : Nat) :
    Option String × List (String × Json) → Except Fault String × Draft →
      Except Fault (Option String × List (String × Json))
  | (t, vs), f => do
    let k ← f.1
    if k = tag then return (← once t (tagText known) f.2, vs)
    else return (t, vs ++ [(k, ← f.2.value room)])

theorem tagged_obj (tag : String) (known : String → Bool) (room : Nat)
    (fs : List (Except Fault String × Draft)) (stop : Option Fault) :
    tagged tag known room (.obj fs stop) = do
      let (t, vs) ← fs.foldlM (tagStep tag known room) (none, [])
      reach stop
      return (← required t, .named vs) := rfl

section
variable {tag : String} {known : String → Bool} {fs : List (String × Json)}
  (ht : ∀ f ∈ fs, f.1 ≠ tag) (ho : Json.isOrderedFields fs = true) (room : Nat)
include ht ho

theorem tagStep_fields (t : Option String) (vs : List (String × Json)) :
    (Json.draftFields fs).foldlM (tagStep tag known room) (t, vs) =
      fits room (Json.heightFields fs) (t, vs ++ fs) := by
  induction fs generalizing vs with
  | nil =>
    rw [List.append_nil, Json.heightFields, fits_zero]
    rfl
  | cons f fs ih =>
    obtain ⟨k, x⟩ := f
    obtain ⟨hk, ht⟩ := List.forall_mem_cons.mp ht
    rw [Json.isOrderedFields, Bool.and_eq_true] at ho
    have hs : tagStep tag known room (t, vs) (.ok k, x.draft) =
        fits room x.height (t, vs ++ [(k, x)]) := by
      rw [tagStep, value_draft x room ho.1]
      exact (if_neg hk).trans (fits_then rfl)
    have ih := ih ht ho.2 (vs ++ [(k, x)])
    rw [List.append_assoc, List.singleton_append] at ih
    exact foldlM_fits hs ih

theorem tagged_draft {kind : String} (hk : known kind = true) :
    tagged tag known room (Json.draft (.obj ((tag, .str kind) :: fs))) =
      fits room (Json.heightFields fs) (kind, .named fs) := by
  have hs : tagStep tag known room (none, []) (.ok tag, .str (.ok kind)) = .ok (some kind, []) := by
    rw [tagStep]
    refine (if_pos rfl).trans ?_
    rw [once, tagText, text]
    simp [hk, Except.map, bind, Except.bind, pure, Except.pure]
  have hf : (Json.draftFields fs).foldlM (tagStep tag known room) (some kind, []) =
      fits room (Json.heightFields fs) (some kind, fs) :=
    tagStep_fields ht ho room (some kind) []
  rw [Json.draft, Json.draftFields, tagged_obj, Json.draft, foldlM_ok hs, hf]
  exact fits_then rfl

end

end Draft

namespace Json

/-- What can be written and read back: no number in it is a binary one, and its fields are in order,
as they are in every value that was read. -/
def isPlain (v : Json) : Bool := v.isExact && v.isOrdered

theorem parse_render {v : Json} (hv : v.isPlain = true) :
    parse v.render = Draft.fits room v.height v := by
  rw [isPlain, Bool.and_eq_true] at hv
  rw [parse, Draft.decode_render _ hv.1, Draft.value_draft v room hv.2]

theorem isPlain_of_parse {s : List Char} {v : Json} (h : parse s = .ok v)
    (hv : v.isExact = true) : v.isPlain = true := by
  obtain ⟨d, hd⟩ := Draft.decode_ok h
  rw [isPlain, hv, Draft.value_isOrdered d room v hd, Bool.and_self]

@[simp] theorem isPlain_str (s : String) : (str s).isPlain = true := rfl

theorem fields_plain {fs : List (String × Json)} (h : ∀ f ∈ fs, f.2.isPlain = true) :
    isExactFields fs = true ∧ isOrderedFields fs = true := by
  induction fs with
  | nil => exact ⟨rfl, rfl⟩
  | cons f fs ih =>
    obtain ⟨hf, hs⟩ := List.forall_mem_cons.mp h
    rw [isPlain, Bool.and_eq_true] at hf
    rw [isExactFields, isOrderedFields, hf.1, hf.2]
    exact ih hs

def natural (n : Nat) (h : n < 0x1_0000_0000_0000_0000) : Json :=
  .num (.int ⟨n, by omega, by omega⟩)

@[simp] theorem isPlain_natural {n : Nat} (h : n < 0x1_0000_0000_0000_0000) :
    (natural n h).isPlain = true := rfl

@[simp] theorem natural_nat? {n : Nat} (h : n < 0x1_0000_0000_0000_0000) :
    (natural n h).nat? = some n := by
  simp only [natural, nat?, Number.toNat?, Integer.toNat?, Int.natCast_nonneg, if_true,
    Int.toNat_natCast]

@[simp] theorem natural_optional? {n : Nat} (h : n < 0x1_0000_0000_0000_0000) :
    (natural n h).optional? nat? = some (some n) :=
  congrArg (Option.map some) (natural_nat? h)

theorem natural_render {n : Nat} (h : n < 0x1_0000_0000_0000_0000) :
    (natural n h).render = Nat.toDigits 10 n := by
  have hn : ¬ (n : Int) < 0 := Int.not_lt.mpr (Int.natCast_nonneg n)
  simp only [natural, render, Number.render, Integer.render, hn, if_false, Int.natAbs_natCast]

end Json

namespace HostMessage

def payload : HostMessage → Json
  | .event _ _ payload => payload
  | .response _ payload _ => payload

/-- A message that can be written and read back, with its entity as a 64 bit word. -/
structure Plain (m : HostMessage) : Prop where
  entity (e : Entity) : m.entity? = some e → e.id < 0x1_0000_0000_0000_0000
  payload : m.payload.isPlain = true

section
variable (m : HostMessage) (he : ∀ e, m.entity? = some e → e.id < 0x1_0000_0000_0000_0000)

def fields : List (String × Json) :=
  match m, he with
  | .event name none payload, _ => [("eventName", .str name), ("payload", payload)]
  | .event name (some e) payload, he =>
    [("eventName", .str name), ("entityId", .natural e.id (he e rfl)), ("payload", payload)]
  | .response request payload error, _ =>
    [("requestId", .str request.text), ("payload", payload)] ++
      (error.map fun m => ("error", .str m)).toList

theorem render_fields : m.render = Json.render (.obj (("type", .str m.kind) :: m.fields he)) := by
  obtain ⟨name, _ | e, payload⟩ | ⟨request, payload, _ | message⟩ := m
  · rfl
  · simp only [render, fields, Json.render, Json.renderFields, Json.natural_render]
    rfl
  · rfl
  · rfl

theorem heightFields_fields : Json.heightFields (m.fields he) = m.payload.height := by
  obtain ⟨name, _ | e, payload⟩ | ⟨request, payload, _ | message⟩ := m <;>
    simp [fields, HostMessage.payload, Json.heightFields, Json.height, Json.natural]

theorem ofParts?_fields : ofParts? m.kind (.named (m.fields he)) = some m := by
  obtain ⟨name, _ | e, payload⟩ | ⟨request, payload, _ | message⟩ := m
  · rfl
  · simp [fields, kind, ofParts?, Parts.pick?, find?, Json.string?]
  · rfl
  · rfl

end

theorem parse_text {m : HostMessage} (hm : m.Plain) :
    parse m.text.toList = Draft.fits 126 m.payload.height m := by
  have ht : ∀ f ∈ m.fields hm.entity, f.1 ≠ "type" := by
    obtain ⟨name, _ | e, payload⟩ | ⟨request, payload, _ | message⟩ := m <;> simp [fields]
  have hp : ∀ f ∈ m.fields hm.entity, f.2.isPlain = true := by
    have hv := hm.payload
    obtain ⟨name, _ | e, payload⟩ | ⟨request, payload, _ | message⟩ := m <;>
      simpa [fields, HostMessage.payload] using hv
  have hk : isKind m.kind = true := by cases m <;> rfl
  obtain ⟨hx, ho⟩ := Json.fields_plain hp
  have he : (Json.obj (("type", .str m.kind) :: m.fields hm.entity)).isExact = true := hx
  rw [text, String.toList_ofList, m.render_fields hm.entity, parse, Draft.decode_render _ he,
    ofDraft, Draft.tagged_draft ht ho _ hk, heightFields_fields]
  refine Draft.fits_then ?_
  dsimp only
  rw [ofParts?_fields]
  rfl

end HostMessage

namespace Draft

variable {α : Type}

/-- A value that is written as a text, and what a reader makes of it. -/
structure Spells (text : List Char) (read : Draft → Except Fault α) (r : Except Fault α)
    (v : Json) : Prop where
  exact : v.isExact = true
  render : v.render = text
  reads : read v.draft = r

theorem heightItems_append (xs ys : List Json) :
    Json.heightItems (xs ++ ys) = max (Json.heightItems xs) (Json.heightItems ys) := by
  induction xs with
  | nil => exact (Nat.zero_max _).symm
  | cons x xs ih => rw [List.cons_append, Json.heightItems, ih, Json.heightItems, Nat.max_assoc]

theorem items_spelled (text : α → List Char) (read : Draft → Except Fault α)
    (values : α → List Json) (room : Nat) {as : List α}
    (h : ∀ a ∈ as, ∃ v, Spells (text a) read (fits room (Json.heightItems (values a)) a) v) :
    ∃ vs, Json.isExactItems vs = true ∧ Json.renderItems vs = as.map text ∧
      (Json.draftItems vs).mapM read = fits room (Json.heightItems (as.flatMap values)) as := by
  induction as with
  | nil => exact ⟨[], rfl, rfl, (fits_zero room []).symm⟩
  | cons a as ih =>
    obtain ⟨ha, hs⟩ := List.forall_mem_cons.mp h
    obtain ⟨v, hv⟩ := ha
    obtain ⟨vs, he, hr, hm⟩ := ih hs
    refine ⟨v :: vs, ?_, ?_, ?_⟩
    · rw [Json.isExactItems, hv.exact, he, Bool.and_self]
    · rw [Json.renderItems, hv.render, hr, List.map_cons]
    · rw [Json.draftItems, List.mapM_cons, hv.reads, hm, List.flatMap_cons, heightItems_append]
      exact fits_bind (fits_then rfl)

theorem record_fields {σ : Type} (names : List String) (step : σ → String → Draft → Except Fault σ)
    (start : σ) (fs : List (String × Json)) :
    record names step start (Json.draft (.obj fs)) =
      fs.foldlM (fun s f => step s f.1 f.2.draft) start := by
  have along : (Json.draftFields fs).foldlM (fun s f => do step s (← f.1) f.2) start =
      fs.foldlM (fun s f => step s f.1 f.2.draft) start := by
    induction fs generalizing start with
    | nil => rfl
    | cons f fs ih =>
      rw [Json.draftFields, List.foldlM_cons, List.foldlM_cons]
      exact bind_congr ih
  rw [Json.draft, record, along]
  cases fs.foldlM (fun s f => step s f.1 f.2.draft) start <;> rfl

theorem list_items {read : Draft → Except Fault α} {vs : List Json} {room n : Nat} {as : List α}
    (h : (Json.draftItems vs).mapM read = fits room n as) :
    list read (Json.draft (.arr vs)) = fits room n as := by
  rw [Json.draft, list, h]
  exact fits_then rfl

end Draft

namespace Operation

def values : Operation → List Json
  | .updateComponent _ _ v => [v]
  | _ => []

section
variable (o : Operation) (he : o.entity.id < 0x1_0000_0000_0000_0000)

def fields : List (String × Json) :=
  ("entityId", .natural o.entity.id he) ::
    match o with
    | .updateComponent _ c v => [("component", .str c), ("value", v)]
    | .removeComponent _ c => [("component", .str c)]
    | _ => []

theorem render_fields : o.render = Json.render (.obj (("op", .str o.kind) :: o.fields he)) := by
  have hn := Json.natural_render he
  cases o <;> simp only [render, Json.render, Json.renderFields, fields, hn] <;> rfl

theorem heightFields_fields : Json.heightFields (o.fields he) = Json.heightItems o.values := by
  cases o <;> simp [fields, values, Json.heightFields, Json.heightItems, Json.height, Json.natural]

theorem ofParts?_fields : ofParts? o.kind (.named (o.fields he)) = some o := by
  cases o <;> simp [fields, kind, ofParts?, Parts.pick?, find?, entity, Json.string?]

include he in
theorem spelled (hv : ∀ v ∈ o.values, v.isPlain = true) (room : Nat) :
    ∃ v, Draft.Spells o.render (ofDraft room)
      (Draft.fits room (Json.heightItems o.values) o) v := by
  have ht : ∀ f ∈ o.fields he, f.1 ≠ "op" := by cases o <;> simp [fields]
  have hp : ∀ f ∈ o.fields he, f.2.isPlain = true := by
    cases o <;> simp [fields]
    exact hv _ List.mem_cons_self
  have hk : kinds.contains o.kind = true := by cases o <;> rfl
  obtain ⟨hx, ho⟩ := Json.fields_plain hp
  refine ⟨.obj (("op", .str o.kind) :: o.fields he), hx, (o.render_fields he).symm, ?_⟩
  rw [ofDraft, Draft.tagged_draft ht ho _ hk, heightFields_fields]
  refine Draft.fits_then ?_
  dsimp only
  rw [ofParts?_fields]
  rfl

end

end Operation

namespace Request

def values (r : Request) : List Json := [r.payload]

theorem spelled (r : Request) (hp : r.payload.isPlain = true) (room : Nat) :
    ∃ v, Draft.Spells r.render (ofDraft room)
      (Draft.fits room (Json.heightItems r.values) r) v := by
  rw [Json.isPlain, Bool.and_eq_true] at hp
  refine ⟨.obj [("requestId", .str r.id.text), ("query", .str r.query), ("payload", r.payload)],
    ?_, rfl, ?_⟩
  · simp [Json.isExact, Json.isExactFields, hp.1]
  · let p : Seen := ⟨some r.id.text, some r.query, none⟩
    have hf : field room p "payload" r.payload.draft =
        Draft.fits room r.payload.height { p with payload := some r.payload } := by
      have hv : Draft.once p.payload (·.value room) r.payload.draft =
          Draft.fits room r.payload.height (some r.payload) :=
        Draft.once_fits (Draft.value_draft r.payload room hp.2)
      exact (congrArg (· >>= _) hv).trans (Draft.fits_then rfl)
    rw [ofDraft, Draft.record_fields]
    change ((field room p "payload" r.payload.draft >>= fun p => .ok p) >>= _) = _
    rw [hf, values, Json.heightItems, Json.heightItems, Nat.max_zero]
    exact (congrArg (· >>= _) (Draft.fits_then rfl)).trans (Draft.fits_then rfl)

end Request

namespace Batch

def values (b : Batch) : List Json :=
  b.ops.flatMap Operation.values ++ b.queries.flatMap Request.values

structure Plain (b : Batch) : Prop where
  seq : b.seq < 0x1_0000_0000_0000_0000
  entities (o : Operation) : o ∈ b.ops → o.entity.id < 0x1_0000_0000_0000_0000
  values (v : Json) : v ∈ b.values → v.isPlain = true

section
variable {b : Batch} (hb : b.Plain)
include hb

theorem ops_spelled : ∃ vs, Json.isExactItems vs = true ∧
    Json.renderItems vs = b.ops.map Operation.render ∧
    (Json.draftItems vs).mapM (Operation.ofDraft 124) =
      Draft.fits 124 (Json.heightItems (b.ops.flatMap Operation.values)) b.ops := by
  refine Draft.items_spelled _ _ _ 124 fun o ho => o.spelled (hb.entities o ho) (fun v hm => ?_) 124
  exact hb.values v (List.mem_append_left _ (List.mem_flatMap.mpr ⟨o, ho, hm⟩))

theorem queries_spelled : ∃ vs, Json.isExactItems vs = true ∧
    Json.renderItems vs = b.queries.map Request.render ∧
    (Json.draftItems vs).mapM (Request.ofDraft 124) =
      Draft.fits 124 (Json.heightItems (b.queries.flatMap Request.values)) b.queries := by
  refine Draft.items_spelled _ _ _ 124 fun r hr => r.spelled (hb.values r.payload ?_) 124
  exact List.mem_append_right _ (List.mem_flatMap.mpr ⟨r, hr, List.mem_singleton_self _⟩)

theorem field_seq : field {} "tickSeq" (Json.natural b.seq hb.seq).draft =
    .ok { seq := some b.seq } := by
  have hn : Draft.nat (Json.natural b.seq hb.seq).draft = .ok b.seq :=
    congrArg (Draft.expect (Json.natural b.seq hb.seq).draft) (Json.natural_nat? hb.seq)
  have ho : Draft.once none Draft.nat (Json.natural b.seq hb.seq).draft = .ok (some b.seq) :=
    congrArg (Except.map some) hn
  exact (congrArg (· >>= _) ho).trans rfl

theorem parse_text : parse b.text.toList = Draft.fits 124 (Json.heightItems b.values) b := by
  obtain ⟨vs, hx, hr, hm⟩ := ops_spelled hb
  obtain ⟨ws, hy, hs, hn⟩ := queries_spelled hb
  let m := Json.heightItems (b.ops.flatMap Operation.values)
  let n := Json.heightItems (b.queries.flatMap Request.values)
  have ho : field { seq := some b.seq } "ops" (Json.draft (.arr vs)) =
      Draft.fits 124 m ⟨some b.seq, some b.ops, none⟩ :=
    (congrArg (· >>= _) (Draft.once_fits (Draft.list_items hm))).trans (Draft.fits_then rfl)
  have hw : field ⟨some b.seq, some b.ops, none⟩ "queries" (Json.draft (.arr ws)) =
      Draft.fits 124 n ⟨some b.seq, some b.ops, some b.queries⟩ :=
    (congrArg (· >>= _) (Draft.once_fits (Draft.list_items hn))).trans (Draft.fits_then rfl)
  rw [text, String.toList_ofList, parse, values, Draft.heightItems_append]
  by_cases he : b.queries = []
  · have ht : b.render =
        Json.render (.obj [("tickSeq", .natural b.seq hb.seq), ("ops", .arr vs)]) := by
      rw [render, ← hr, ← Json.natural_render hb.seq, he]
      rfl
    have hf : Draft.record ["tickSeq", "ops", "queries"] field {}
        (Json.draft (.obj [("tickSeq", .natural b.seq hb.seq), ("ops", .arr vs)])) =
          Draft.fits 124 (max m 0) ⟨some b.seq, some b.ops, none⟩ := by
      rw [Draft.record_fields, Draft.foldlM_ok (field_seq hb)]
      exact Draft.foldlM_fits ho (Draft.foldlM_nil_fits 124)
    rw [ht, Draft.decode_render _ (by simp [Json.isExact, Json.isExactFields, hx, Json.natural]),
      ofDraft, hf, he]
    refine Draft.fits_then ?_
    exact congrArg (fun qs => Except.ok (Batch.mk b.seq b.ops qs)) he.symm
  · have ht : b.render = Json.render (.obj [("tickSeq", .natural b.seq hb.seq), ("ops", .arr vs),
        ("queries", .arr ws)]) := by
      rw [render, ← hr, ← hs, ← Json.natural_render hb.seq, if_neg (by simpa using he)]
      rfl
    have hf : Draft.record ["tickSeq", "ops", "queries"] field {}
        (Json.draft (.obj [("tickSeq", .natural b.seq hb.seq), ("ops", .arr vs),
          ("queries", .arr ws)])) =
            Draft.fits 124 (max m (max n 0)) ⟨some b.seq, some b.ops, some b.queries⟩ := by
      rw [Draft.record_fields, Draft.foldlM_ok (field_seq hb)]
      exact Draft.foldlM_fits ho (Draft.foldlM_fits hw (Draft.foldlM_nil_fits 124))
    rw [ht, Draft.decode_render _ (by
        simp [Json.isExact, Json.isExactFields, hx, hy, Json.natural]), ofDraft, hf, Nat.max_zero]
    exact Draft.fits_then rfl

end

end Batch

theorem Json.heightItems_le {xs : List Json} {n : Nat} :
    heightItems xs ≤ n ↔ ∀ x ∈ xs, x.height ≤ n := by
  induction xs with
  | nil => simp [heightItems]
  | cons x xs ih => rw [heightItems, Nat.max_le, ih, List.forall_mem_cons]

/-- Whatever is written without binary numbers is read as it was, if its values nest no deeper than
126 arrays and objects in a message of the host and 124 in a batch. It is refused if they do. -/
theorem texts_read_back :
    (∀ m : HostMessage, m.Plain → HostMessage.parse m.text.toList =
      if m.payload.height ≤ 126 then .ok m else .error .malformed) ∧
    ∀ b : Batch, b.Plain → Batch.parse b.text.toList =
      if ∀ v ∈ b.values, v.height ≤ 124 then .ok b else .error .malformed := by
  refine ⟨fun m hm => HostMessage.parse_text hm, fun b hb => ?_⟩
  rw [Batch.parse_text hb]
  simp only [Draft.fits, Json.heightItems_le]

def Json.nested : Nat → Json
  | 0 => .null
  | n + 1 => .arr [nested n]

theorem texts_read_back_deepest :
    let event (n : Nat) : HostMessage := .event "e" (some ⟨7⟩) (.nested n)
    let batch (n : Nat) : Batch :=
      ⟨1, [.createEntity ⟨7⟩, .updateComponent ⟨7⟩ "c" (.nested n)], [⟨⟨"q1"⟩, "\n", .null⟩]⟩
    HostMessage.parse (event 126).text.toList = .ok (event 126) ∧
      HostMessage.parse (event 127).text.toList = .error .malformed ∧
      Batch.parse (batch 124).text.toList = .ok (batch 124) ∧
      Batch.parse (batch 125).text.toList = .error .malformed := by
  intro event batch
  obtain ⟨hm, hb⟩ := texts_read_back
  have he (n : Nat) (hn : (Json.nested n).isPlain = true) : (event n).Plain := by
    refine ⟨fun e h => ?_, hn⟩
    cases h
    decide
  have hs (n : Nat) (hn : (Json.nested n).isPlain = true) : (batch n).Plain := by
    refine ⟨by simp [batch], by simp [batch, Operation.entity], ?_⟩
    simp [batch, Batch.values, Operation.values, Request.values, hn]
    rfl
  refine ⟨?_, ?_, ?_, ?_⟩
  · rw [hm (event 126) (he 126 (by decide +kernel)), if_pos (by decide +kernel)]
  · rw [hm (event 127) (he 127 (by decide +kernel)), if_neg (by decide +kernel)]
  · rw [hb (batch 124) (hs 124 (by decide +kernel)), if_pos (by decide +kernel)]
  · rw [hb (batch 125) (hs 125 (by decide +kernel)), if_neg (by decide +kernel)]

end Diorama
