import Diorama.Config
import Diorama.Proofs.RoundTrip
import Diorama.Proofs.Sizes

namespace Diorama

namespace Config

def Admits (name : String) (v : Json) : Prop :=
  match name with
  | "scene_id" => ∃ s, v = .str s
  | "tick_rate" => ∃ i, v = .num (.int i) ∧ 1 ≤ i.val ∧ i.val ≤ 240
  | "max_message_size" => (∃ i, v = .num (.int i) ∧ 0 ≤ i.val) ∨
      ∃ s size, v = .str s ∧ ByteSize.parse s.toList = .ok size
  | "query_timeout_ticks" => ∃ i, v = .num (.int i) ∧ 0 ≤ i.val ∧ i.val < 0x1_0000_0000
  | "send_empty_batches" => ∃ b, v = .bool b
  | "log_level" => ∃ l : Level, v = .str l.name
  | _ => True

/-- What a field has to be by the schema, which takes every number without fractional part for an
integer, and knows no limit of a size or a timeout. -/
def Passes (name : String) (v : Json) : Prop :=
  match name with
  | "scene_id" => ∃ s, v = .str s
  | "tick_rate" => ∃ n i, v = .num n ∧ n.whole? = some i ∧ 1 ≤ i ∧ i ≤ 240
  | "max_message_size" => (∃ s, v = .str s) ∨ ∃ n i, v = .num n ∧ n.whole? = some i
  | "query_timeout_ticks" => ∃ n i, v = .num n ∧ n.whole? = some i ∧ 0 ≤ i
  | "send_empty_batches" => ∃ b, v = .bool b
  | "log_level" => ∃ l : Level, v = .str l.name
  | _ => True

def Throughout (p : String → Json → Prop) (v : Json) : Prop :=
  ∃ fs, v = .obj fs ∧ ∀ f ∈ fs, p f.1 f.2

/-- What a field has to be for it to be read, whatever the schema says of it. -/
def Reads (name : String) (v : Json) : Prop :=
  match name with
  | "scene_id" => v.string?.isSome
  | "tick_rate" => v.nat?.isSome
  | "max_message_size" => (ByteSize.ofJson? v).isSome
  | "query_timeout_ticks" => (nat32? v).isSome
  | "send_empty_batches" => v.bool?.isSome
  | "log_level" => v.string?.isSome
  | _ => True

def Given {α : Type} (fs : List (String × Json)) (name : String) (absent : α)
    (gives : Json → α → Prop) (a : α) : Prop :=
  (find? name fs = none ∧ a = absent) ∨ ∃ v, find? name fs = some v ∧ gives v a

/-- The settings that the fields of an object give. -/
structure Describes (fs : List (String × Json)) (c : Config) : Prop where
  sceneId : Given fs "scene_id" "scene" (fun v s => v = .str s) c.sceneId
  tickRate : Given fs "tick_rate" 30 (fun v (n : Nat) => ∃ i, v = .num (.int i) ∧ i.val = n)
    c.tickRate
  maxMessageSize : Given fs "max_message_size" 4194304
    (fun v (n : Nat) => (∃ i, v = .num (.int i) ∧ i.val = n) ∨
      ∃ s size, v = .str s ∧ ByteSize.parse s.toList = .ok size ∧ size.bytes = n)
    c.maxMessageSize.bytes
  queryTimeoutTicks : Given fs "query_timeout_ticks" 300
    (fun v (n : Nat) => ∃ i, v = .num (.int i) ∧ i.val = n) c.queryTimeoutTicks
  sendEmptyBatches : Given fs "send_empty_batches" false (fun v b => v = .bool b)
    c.sendEmptyBatches
  logLevel : Given fs "log_level" "info" (fun v s => v = .str s) c.logLevel

end Config

theorem Json.string?_eq_some {v : Json} {s : String} : v.string? = some s ↔ v = .str s := by
  cases v <;> simp [string?]

theorem Json.bool?_eq_some {v : Json} {b : Bool} : v.bool? = some b ↔ v = .bool b := by
  cases v <;> simp [bool?]

theorem Json.nat?_eq_some {v : Json} {n : Nat} :
    v.nat? = some n ↔ ∃ i, v = .num (.int i) ∧ i.val = n := by
  cases v with
  | num m =>
    cases m with
    | int i =>
      simp only [nat?, Number.toNat?, Integer.toNat?, num.injEq, Number.int.injEq, exists_eq_left']
      split <;> simp <;> omega
    | float x => simp [nat?, Number.toNat?]
  | _ => simp [nat?]

theorem ByteSize.ofJson?_eq_some {v : Json} {s : ByteSize} :
    ofJson? v = some s ↔ (∃ i, v = .num (.int i) ∧ i.val = s.bytes) ∨
      ∃ t, v = .str t ∧ parse t.toList = .ok s := by
  cases v with
  | num m =>
    have hb : ofJson? (.num m) = some s ↔ (Json.num m).nat? = some s.bytes := by
      rw [ofJson?, Json.nat?]
      cases m.toNat? with
      | none => simp
      | some n =>
        obtain ⟨k, hk⟩ := s
        simp only [Option.bind_some]
        split
        · simp
        · simp only [reduceCtorEq, Option.some.injEq, false_iff]
          omega
    rw [hb, Json.nat?_eq_some]
    simp
  | str t =>
    rw [ofJson?]
    cases h : parse t.toList <;> simp [Except.toOption, h]
  | _ => simp [ofJson?]

theorem Config.nat32?_eq_some {v : Json} {n : Nat} :
    nat32? v = some n ↔ ∃ i, v = .num (.int i) ∧ i.val = n ∧ n < 0x1_0000_0000 := by
  rw [nat32?, Option.filter_eq_some_iff, Json.nat?_eq_some]
  simp only [decide_eq_true_eq, ← exists_and_right, and_assoc]

theorem Source.json_text (s : String) :
    json (.text s) = (Json.parse s.toList).mapError .unreadable := rfl

theorem Schema.isWhole_iff {p : Int → Bool} {v : Json} :
    isWhole p v = true ↔ ∃ n i, v = .num n ∧ n.whole? = some i ∧ p i = true := by
  cases v <;> simp [isWhole, whole?, Option.any_eq_true]

theorem Schema.isText_iff {v : Json} : isText v = true ↔ ∃ s, v = .str s := by
  cases v <;> simp [isText, Json.string?]

theorem Schema.isBool_iff {v : Json} : isBool v = true ↔ ∃ b, v = .bool b := by
  cases v <;> simp [isBool, Json.bool?]

theorem Level.named?_isSome {s : String} : (named? s).isSome = true ↔ ∃ l : Level, l.name = s := by
  rw [named?, List.find?_isSome]
  simp only [decide_eq_true_eq]
  constructor
  · rintro ⟨l, _, h⟩
    exact ⟨l, h⟩
  · rintro ⟨l, h⟩
    exact ⟨l, by cases l <;> decide, h⟩

theorem Level.parse_name (l : Level) : parse l.name = some l := by
  cases l <;> decide

namespace Config

theorem fieldConforms_iff (name : String) (v : Json) :
    fieldConforms name v = true ↔ Passes name v := by
  unfold fieldConforms Passes
  split
  · exact Schema.isText_iff
  · simp only [Schema.isWhole_iff, decide_eq_true_eq]
    rfl
  · simp only [Bool.or_eq_true, Schema.isText_iff, Schema.isWhole_iff, and_true]
  · simp only [Schema.isWhole_iff, decide_eq_true_eq]
  · exact Schema.isBool_iff
  · rw [Option.any_eq_true]
    simp only [Json.string?_eq_some, Level.named?_isSome]
    constructor
    · rintro ⟨_, hv, l, rfl⟩
      exact ⟨l, hv⟩
    · rintro ⟨l, hv⟩
      exact ⟨l.name, hv, l, rfl⟩
  · simp

theorem conforms_iff (v : Json) : conforms v = true ↔ Throughout Passes v := by
  cases v <;> simp [conforms, Schema.isObject, Throughout, fieldConforms_iff]

theorem admits_iff (name : String) (v : Json) : Admits name v ↔ Passes name v ∧ Reads name v := by
  unfold Admits Passes Reads
  split
  · simp only [Option.isSome_iff_exists, Json.string?_eq_some, and_self]
  · simp only [Option.isSome_iff_exists, Json.nat?_eq_some]
    constructor
    · rintro ⟨i, rfl, hl, hh⟩
      exact ⟨⟨_, i.val, rfl, rfl, hl, hh⟩, i.val.toNat, i, rfl, by omega⟩
    · rintro ⟨⟨_, k, rfl, hk, hl, hh⟩, n, i, hi, _⟩
      obtain rfl := Json.num.inj hi
      obtain rfl := Option.some.inj hk
      exact ⟨i, rfl, hl, hh⟩
  · simp only [Option.isSome_iff_exists, ByteSize.ofJson?_eq_some]
    constructor
    · rintro (⟨i, rfl, hl⟩ | ⟨t, size, rfl, ht⟩)
      · exact ⟨.inr ⟨_, i.val, rfl, rfl⟩, ⟨i.val.toNat, by have := i.high; omega⟩,
          .inl ⟨i, rfl, by simp; omega⟩⟩
      · exact ⟨.inl ⟨t, rfl⟩, size, .inr ⟨t, rfl, ht⟩⟩
    · rintro ⟨_, size, ⟨i, rfl, hi⟩ | ⟨t, rfl, ht⟩⟩
      · exact .inl ⟨i, rfl, by omega⟩
      · exact .inr ⟨t, size, rfl, ht⟩
  · simp only [Option.isSome_iff_exists, nat32?_eq_some]
    constructor
    · rintro ⟨i, rfl, hl, hh⟩
      exact ⟨⟨_, i.val, rfl, rfl, hl⟩, i.val.toNat, i, rfl, by omega, by omega⟩
    · rintro ⟨⟨_, k, rfl, hk, hl⟩, n, i, hi, hn, hh⟩
      obtain rfl := Json.num.inj hi
      exact ⟨i, rfl, by omega, by omega⟩
  · simp only [Option.isSome_iff_exists, Json.bool?_eq_some, and_self]
  · simp only [Option.isSome_iff_exists, Json.string?_eq_some]
    constructor
    · rintro ⟨l, h⟩
      exact ⟨⟨l, h⟩, l.name, h⟩
    · exact And.left
  · simp

theorem field_eq_some {α : Type} {fs : List (String × Json)} {name : String} {absent a : α}
    {read : Json → Option α} : field fs name absent read = some a ↔
      Given fs name absent (fun v a => read v = some a) a := by
  rw [field, Given]
  cases find? name fs <;> simp [eq_comm]

theorem field_isSome {α : Type} {fs : List (String × Json)} {name : String} {absent : α}
    {read : Json → Option α} : (field fs name absent read).isSome = true ↔
      ∀ v, find? name fs = some v → (read v).isSome = true := by
  rw [field]
  cases find? name fs <;> simp

theorem Given.imp {α β : Type} {fs : List (String × Json)} {name : String} {absent : α}
    {absent' : β} {gives : Json → α → Prop} {gives' : Json → β → Prop} {a : α} {b : β}
    (h : Given fs name absent gives a) (ha : a = absent → b = absent')
    (hg : ∀ v, find? name fs = some v → gives v a → gives' v b) :
    Given fs name absent' gives' b :=
  Or.imp (And.imp_right ha) (fun ⟨v, hv, hr⟩ => ⟨v, hv, hg v hv hr⟩) h

theorem ofJson?_obj {fs : List (String × Json)} {c : Config} :
    ofJson? (.obj fs) = some c ↔
      field fs "scene_id" "scene" Json.string? = some c.sceneId ∧
      field fs "tick_rate" 30 Json.nat? = some c.tickRate ∧
      field fs "max_message_size" .standard ByteSize.ofJson? = some c.maxMessageSize ∧
      field fs "query_timeout_ticks" 300 nat32? = some c.queryTimeoutTicks ∧
      field fs "send_empty_batches" false Json.bool? = some c.sendEmptyBatches ∧
      field fs "log_level" "info" Json.string? = some c.logLevel := by
  obtain ⟨sceneId, tickRate, size, timeout, empty, level⟩ := c
  simp only [ofJson?, Option.bind_eq_bind, Option.bind_eq_some_iff, Option.pure_def,
    Option.some.injEq, mk.injEq]
  constructor
  · rintro ⟨_, h₁, _, h₂, _, h₃, _, h₄, _, h₅, _, h₆, rfl, rfl, rfl, rfl, rfl, rfl⟩
    exact ⟨h₁, h₂, h₃, h₄, h₅, h₆⟩
  · rintro ⟨h₁, h₂, h₃, h₄, h₅, h₆⟩
    exact ⟨_, h₁, _, h₂, _, h₃, _, h₄, _, h₅, _, h₆, rfl, rfl, rfl, rfl, rfl, rfl⟩

theorem ofJson?_isSome {fs : List (String × Json)} (ho : fs.Pairwise (·.1 < ·.1)) :
    (ofJson? (.obj fs)).isSome = true ↔ ∀ f ∈ fs, Reads f.1 f.2 := by
  have hp : (ofJson? (.obj fs)).isSome = true ↔
      (field fs "scene_id" "scene" Json.string?).isSome = true ∧
      (field fs "tick_rate" 30 Json.nat?).isSome = true ∧
      (field fs "max_message_size" .standard ByteSize.ofJson?).isSome = true ∧
      (field fs "query_timeout_ticks" 300 nat32?).isSome = true ∧
      (field fs "send_empty_batches" false Json.bool?).isSome = true ∧
      (field fs "log_level" "info" Json.string?).isSome = true := by
    simp only [Option.isSome_iff_exists, ofJson?_obj]
    constructor
    · rintro ⟨c, h₁, h₂, h₃, h₄, h₅, h₆⟩
      exact ⟨⟨_, h₁⟩, ⟨_, h₂⟩, ⟨_, h₃⟩, ⟨_, h₄⟩, ⟨_, h₅⟩, ⟨_, h₆⟩⟩
    · rintro ⟨⟨_, h₁⟩, ⟨_, h₂⟩, ⟨_, h₃⟩, ⟨_, h₄⟩, ⟨_, h₅⟩, ⟨_, h₆⟩⟩
      exact ⟨⟨_, _, _, _, _, _⟩, h₁, h₂, h₃, h₄, h₅, h₆⟩
  simp only [hp, field_isSome, Table.find?_eq_some ho]
  constructor
  · rintro ⟨h₁, h₂, h₃, h₄, h₅, h₆⟩ ⟨name, v⟩ hf
    simp only [Reads]
    split
    · exact h₁ v hf
    · exact h₂ v hf
    · exact h₃ v hf
    · exact h₄ v hf
    · exact h₅ v hf
    · exact h₆ v hf
    · trivial
  · intro h
    exact ⟨fun v hv => h _ hv, fun v hv => h _ hv, fun v hv => h _ hv, fun v hv => h _ hv,
      fun v hv => h _ hv, fun v hv => h _ hv⟩

theorem describes {fs : List (String × Json)} {c : Config} (h : ofJson? (.obj fs) = some c) :
    c.Describes fs := by
  obtain ⟨h₁, h₂, h₃, h₄, h₅, h₆⟩ := ofJson?_obj.mp h
  refine ⟨?_, ?_, ?_, ?_, ?_, ?_⟩
  · exact (field_eq_some.mp h₁).imp id fun v _ => Json.string?_eq_some.mp
  · exact (field_eq_some.mp h₂).imp id fun v _ => Json.nat?_eq_some.mp
  · refine (field_eq_some.mp h₃).imp (congrArg ByteSize.bytes) fun v _ hr => ?_
    obtain hi | ⟨t, hv, ht⟩ := ByteSize.ofJson?_eq_some.mp hr
    · exact .inl hi
    · exact .inr ⟨t, _, hv, ht, rfl⟩
  · refine (field_eq_some.mp h₄).imp id fun v _ hr => ?_
    obtain ⟨i, hv, hn, _⟩ := nat32?_eq_some.mp hr
    exact ⟨i, hv, hn⟩
  · exact (field_eq_some.mp h₅).imp id fun v _ => Json.bool?_eq_some.mp
  · exact (field_eq_some.mp h₆).imp id fun v _ => Json.string?_eq_some.mp

theorem mem_of_find? {α : Type} {k : String} {a : α} {es : List (String × α)}
    (h : find? k es = some a) : (k, a) ∈ es := by
  induction es with
  | nil => cases h
  | cons e es ih =>
    rw [find?] at h
    split at h
    · rename_i he
      obtain rfl := Option.some.inj h
      exact he ▸ .head _
    · exact .tail _ (ih h)

structure Sound (c : Config) : Prop where
  tickRate : 1 ≤ c.tickRate ∧ c.tickRate ≤ 240
  queryTimeoutTicks : c.queryTimeoutTicks < 0x1_0000_0000
  logLevel : ∃ l : Level, l.name = c.logLevel

theorem sound {fs : List (String × Json)} {c : Config} (h : ofJson? (.obj fs) = some c)
    (hp : ∀ f ∈ fs, Passes f.1 f.2) : c.Sound := by
  obtain ⟨_, h₂, _, h₄, _, h₆⟩ := ofJson?_obj.mp h
  refine ⟨?_, ?_, ?_⟩
  · obtain ⟨_, hd⟩ | ⟨v, hv, hr⟩ := field_eq_some.mp h₂
    · rw [hd]
      decide
    · obtain ⟨i, rfl, hn⟩ := Json.nat?_eq_some.mp hr
      obtain ⟨n, k, hi, hk, hl, hh⟩ := hp _ (mem_of_find? hv)
      obtain rfl := Json.num.inj hi
      obtain rfl := Option.some.inj hk
      omega
  · obtain ⟨_, hd⟩ | ⟨v, hv, hr⟩ := field_eq_some.mp h₄
    · rw [hd]
      decide
    · exact (nat32?_eq_some.mp hr).choose_spec.2.2
  · obtain ⟨_, hd⟩ | ⟨v, hv, hr⟩ := field_eq_some.mp h₆
    · exact ⟨.info, hd.symm⟩
    · obtain ⟨l, hl⟩ := hp _ (mem_of_find? hv)
      exact ⟨l, Json.str.inj (hl.symm.trans (Json.string?_eq_some.mp hr))⟩

theorem Sound.level {c : Config} (hc : c.Sound) :
    Level.parse c.logLevel = some c.level ∧ c.level.name = c.logLevel := by
  obtain ⟨l, hl⟩ := hc.logLevel
  have hp : Level.parse c.logLevel = some l := hl ▸ l.parse_name
  rw [Config.level, hp]
  exact ⟨rfl, hl⟩

theorem Sound.tickInterval {c : Config} (hc : c.Sound) :
    c.tickInterval = (2_000_000_000 + c.tickRate) / (2 * c.tickRate) := by
  have hh : min c.tickRate maxRate = c.tickRate := Nat.min_eq_left hc.tickRate.2
  have hl : max minRate c.tickRate = c.tickRate := Nat.max_eq_right hc.tickRate.1
  rw [Config.tickInterval, hh, hl]

section
variable {c : Config} (hc : c.Sound)
include hc

theorem tickRate_lt : c.tickRate < 0x1_0000_0000_0000_0000 := by
  have := hc.tickRate.2
  omega

theorem queryTimeoutTicks_lt : c.queryTimeoutTicks < 0x1_0000_0000_0000_0000 := by
  have := hc.queryTimeoutTicks
  omega

def fields : List (String × Json) :=
  [("scene_id", .str c.sceneId), ("tick_rate", .natural c.tickRate (tickRate_lt hc)),
    ("max_message_size", .str c.maxMessageSize.text),
    ("query_timeout_ticks", .natural c.queryTimeoutTicks (queryTimeoutTicks_lt hc)),
    ("send_empty_batches", .bool c.sendEmptyBatches), ("log_level", .str c.logLevel)]

theorem render_fields : c.render = Json.render (.obj (fields hc)) := by
  rw [render, ← Json.natural_render (tickRate_lt hc),
    ← Json.natural_render (queryTimeoutTicks_lt hc)]
  rfl

theorem parse_render : Json.parse c.render = .ok (.ofFields (fields hc)) := by
  rw [render_fields hc, Json.parse, Draft.decode_render _ rfl]
  rfl

theorem ofFields_fields : Json.ofFields (fields hc) = .obj [("log_level", .str c.logLevel),
    ("max_message_size", .str c.maxMessageSize.text),
    ("query_timeout_ticks", .natural c.queryTimeoutTicks (queryTimeoutTicks_lt hc)),
    ("scene_id", .str c.sceneId), ("send_empty_batches", .bool c.sendEmptyBatches),
    ("tick_rate", .natural c.tickRate (tickRate_lt hc))] := by
  simp only [Json.ofFields, fields, List.foldl_cons, List.foldl_nil, put, String.reduceLT,
    String.reduceEq, if_true, if_false]

theorem ofJson_fields : ofJson (.ofFields (fields hc)) = .ok c := by
  have hp : conforms (.ofFields (fields hc)) = true := by
    have hl : Passes "log_level" (.str c.logLevel) := by
      obtain ⟨l, hl⟩ := hc.logLevel
      exact ⟨l, hl ▸ rfl⟩
    have ht : Passes "tick_rate" (.natural c.tickRate (tickRate_lt hc)) :=
      ⟨_, c.tickRate, rfl, rfl, by have := hc.tickRate; omega⟩
    have hq : Passes "query_timeout_ticks"
        (.natural c.queryTimeoutTicks (queryTimeoutTicks_lt hc)) :=
      ⟨_, c.queryTimeoutTicks, rfl, rfl, Int.natCast_nonneg _⟩
    rw [conforms_iff, ofFields_fields hc]
    refine ⟨_, rfl, ?_⟩
    simp only [List.forall_mem_cons]
    exact ⟨hl, .inl ⟨_, rfl⟩, hq, ⟨_, rfl⟩, ⟨_, rfl⟩, ht, List.forall_mem_nil _⟩
  have hr : ofJson? (.ofFields (fields hc)) = some c := by
    have hn : nat32? (.natural c.queryTimeoutTicks (queryTimeoutTicks_lt hc)) =
        some c.queryTimeoutTicks :=
      nat32?_eq_some.mpr ⟨_, rfl, rfl, hc.queryTimeoutTicks⟩
    rw [ofFields_fields hc, ofJson?_obj]
    simp [field, find?, Json.string?, ByteSize.ofJson?_text, Json.bool?, hn]
  rw [ofJson, if_pos hp, hr]

theorem load_render : load (.text (.ofList c.render)) = .ok c := by
  have hj : Source.json (.text (.ofList c.render)) = .ok (.ofFields (fields hc)) := by
    rw [Source.json_text, String.toList_ofList, parse_render hc]
    rfl
  rw [load, hj]
  exact ofJson_fields hc

end

theorem ofJson_eq_ok {v : Json} {c : Config} :
    ofJson v = .ok c ↔ Throughout Passes v ∧ ofJson? v = some c := by
  rw [ofJson, ← conforms_iff]
  cases conforms v <;> cases ofJson? v <;> simp

/-- Just those documents are configurations whose fields are all as they have to be. What they do
not set has its default. The level is the one that is named, no rate has to be forced into its
bounds, and what is written is read back as it was. A document that is refused is invalid if the
schema says so, and otherwise cannot be read. -/
theorem documents_load_exactly (v : Json) (hv : v.isOrdered = true) :
    ((∃ c, ofJson v = .ok c) ↔ Throughout Admits v) ∧
    (∀ c, ofJson v = .ok c → (∃ fs, v = .obj fs ∧ c.Describes fs) ∧
      Level.parse c.logLevel = some c.level ∧ c.level.name = c.logLevel ∧
      c.tickInterval = (2_000_000_000 + c.tickRate) / (2 * c.tickRate) ∧
      load (.text (.ofList c.render)) = .ok c) ∧
    (ofJson v = .error .invalid ↔ ¬ Throughout Passes v) ∧
    (Throughout Passes v → ¬ Throughout Admits v →
      ofJson v = .error (.unreadable .mismatch)) := by
  have ordered (fs : List (String × Json)) (he : v = .obj fs) : fs.Pairwise (·.1 < ·.1) := by
    rw [he, Json.isOrdered, Bool.and_eq_true, decide_eq_true_eq] at hv
    exact hv.1
  have accepted : (∃ c, ofJson v = .ok c) ↔ Throughout Admits v := by
    simp only [ofJson_eq_ok, exists_and_left, ← Option.isSome_iff_exists]
    constructor
    · rintro ⟨⟨fs, rfl, hp⟩, hr⟩
      have hr := (ofJson?_isSome (ordered fs rfl)).mp hr
      exact ⟨fs, rfl, fun f hf => (admits_iff ..).mpr ⟨hp f hf, hr f hf⟩⟩
    · rintro ⟨fs, rfl, ha⟩
      exact ⟨⟨fs, rfl, fun f hf => ((admits_iff ..).mp (ha f hf)).1⟩,
        (ofJson?_isSome (ordered fs rfl)).mpr fun f hf => ((admits_iff ..).mp (ha f hf)).2⟩
  refine ⟨accepted, fun c hc => ?_, ?_, fun hp hn => ?_⟩
  · obtain ⟨⟨fs, rfl, hp⟩, hr⟩ := ofJson_eq_ok.mp hc
    have hs := sound hr hp
    exact ⟨⟨fs, rfl, describes hr⟩, hs.level.1, hs.level.2, hs.tickInterval, load_render hs⟩
  · rw [ofJson, ← conforms_iff]
    cases conforms v <;> cases ofJson? v <;> simp
  · rw [ofJson, if_pos ((conforms_iff v).mpr hp)]
    cases hr : ofJson? v with
    | none => rfl
    | some c => exact absurd (accepted.mp ⟨c, ofJson_eq_ok.mpr ⟨hp, hr⟩⟩) hn

/-- A document with a size in kilobytes is a configuration. One whose timeout does not fit its word
is not, although the schema lets it pass. -/
theorem documents_load_exactly_sizes :
    let v : Json := .obj [("max_message_size", .str "256K"),
      ("tick_rate", .natural 60 (by decide))]
    let w : Json := .obj [("query_timeout_ticks", .natural 4294967296 (by decide))]
    (∃ c, ofJson v = .ok c ∧ c.maxMessageSize.bytes = 262144 ∧ c.tickRate = 60 ∧
      c.queryTimeoutTicks = 300 ∧ load (.text (.ofList c.render)) = .ok c) ∧
    ofJson w = .error (.unreadable .mismatch) := by
  intro v w
  obtain ⟨ha, hv, _⟩ := documents_load_exactly v (by decide)
  obtain ⟨_, _, _, hw⟩ := documents_load_exactly w (by decide)
  have hs : Throughout Admits v := by
    refine ⟨_, rfl, ?_⟩
    simp only [List.forall_mem_cons]
    exact ⟨.inr ⟨_, _, rfl, rfl⟩, ⟨_, rfl, by decide, by decide⟩, List.forall_mem_nil _⟩
  obtain ⟨c, hc⟩ := ha.mpr hs
  have hk : (ofJson v).toOption.map (fun c =>
      (c.maxMessageSize.bytes, c.tickRate, c.queryTimeoutTicks)) = some (262144, 60, 300) := by
    decide +kernel
  simp only [hc, Except.toOption, Option.map_some, Option.some.injEq, Prod.mk.injEq] at hk
  refine ⟨⟨c, hc, hk.1, hk.2.1, hk.2.2, (hv c hc).2.2.2.2⟩, hw ?_ ?_⟩
  · refine ⟨_, rfl, ?_⟩
    simp only [List.forall_mem_cons]
    exact ⟨⟨_, _, rfl, rfl, by decide⟩, List.forall_mem_nil _⟩
  · rintro ⟨_, hf, ha⟩
    obtain rfl := Json.obj.inj hf
    obtain ⟨i, hi, _, hl⟩ := ha _ (.head _)
    cases hi
    exact absurd hl (by decide)

end Config

end Diorama
