import Diorama.Proofs.Delivery
import Diorama.Proofs.Holdings
import Diorama.Proofs.NetChange
import Diorama.Proofs.Positions
import Mathlib.Data.String.Basic

namespace Diorama

variable {κ σ : Type}

def isHexDigit (c : Char) : Bool :=
  c.isDigit || ('a' ≤ c && c ≤ 'f') || ('A' ≤ c && c ≤ 'F')

theorem utf8Size_hexDigit {c : Char} (h : isHexDigit c = true) : c.utf8Size = 1 := by
  rw [Char.utf8Size_eq_one_iff]
  simp only [isHexDigit, Char.isDigit, Bool.or_eq_true, Bool.and_eq_true, decide_eq_true_eq,
    Char.le_def] at h
  obtain (⟨_, hc⟩ | ⟨_, hc⟩) | ⟨_, hc⟩ := h <;> exact UInt32.le_trans hc (by decide)

theorem utf8Len_hexDigits {ds : List Char} (h : ∀ d ∈ ds, isHexDigit d = true) :
    String.utf8Len ds = ds.length := by
  induction ds with
  | nil => rfl
  | cons d ds ih =>
    obtain ⟨hd, hs⟩ := List.forall_mem_cons.mp h
    rw [String.utf8Len_cons, ih hs, utf8Size_hexDigit hd, List.length_cons]

namespace Json

/-- Six or eight hexadecimal digits behind the sign, or three numbers for the components and perhaps
a fourth. -/
inductive IsColor : Json → Prop
  | hex {s : String} {ds : List Char} (hs : s.toList = '#' :: ds)
      (hl : ds.length = 6 ∨ ds.length = 8) (hd : ∀ d ∈ ds, isHexDigit d = true) : IsColor (.str s)
  | components {fs : List (String × Json)}
      (hc : ∀ k ∈ ["r", "g", "b"], ∃ n, find? k fs = some (.num n))
      (ha : ∀ x, find? "a" fs = some x → ∃ n, x = .num n) : IsColor (.obj fs)

/-- Behind the first character of a text there are hexadecimal digits alone, and each component that
is there is a number. -/
def hasColorParts : Json → Bool
  | .str s => s.toList.tail.all isHexDigit
  | .obj fs => ["r", "g", "b", "a"].all fun k => (find? k fs).all FieldType.isNumber
  | _ => true

theorem isNumber_iff {x : Json} : FieldType.isNumber x = true ↔ ∃ n, x = .num n := by
  cases x <;> simp [FieldType.isNumber]

theorem hasColorParts_obj {fs : List (String × Json)} : (obj fs).hasColorParts = true ↔
    ∀ k ∈ ["r", "g", "b", "a"], ∀ x, find? k fs = some x → ∃ n, x = .num n := by
  simp only [hasColorParts, List.all_eq_true, Option.all_eq_true, isNumber_iff]

theorem IsColor.hasColorParts {x : Json} (h : x.IsColor) : x.hasColorParts = true := by
  cases h with
  | hex hs _ hd =>
    rw [Json.hasColorParts, hs]
    exact List.all_eq_true.mpr hd
  | components hc ha =>
    rw [hasColorParts_obj]
    intro k hk x hx
    obtain hk | hk := List.mem_append.mp (show k ∈ ["r", "g", "b"] ++ ["a"] from hk)
    · obtain ⟨n, hn⟩ := hc k hk
      exact ⟨n, Option.some.inj (hx.symm.trans hn)⟩
    · obtain rfl := List.mem_singleton.mp hk
      exact ha x hx

theorem isColor_of_meets {x : Json} (hx : FieldType.Meets .color x)
    (h : x.hasColorParts = true) : x.IsColor := by
  obtain ⟨s, rfl, hs, hn⟩ | ⟨fs, rfl, hc⟩ := hx
  · obtain ⟨ds, hs⟩ := List.head?_eq_some_iff.mp hs
    rw [hasColorParts, hs] at h
    have hd : ∀ d ∈ ds, isHexDigit d = true := List.all_eq_true.mp h
    have hb : s.utf8ByteSize = ds.length + 1 := by
      rw [← String.utf8Len_toList, hs, String.utf8Len_cons, utf8Len_hexDigits hd]
      rfl
    exact .hex hs (by omega) hd
  · rw [hasColorParts_obj] at h
    refine .components (fun k hk => ?_) (h "a" (by decide))
    obtain ⟨x, hx⟩ := hc k hk
    obtain ⟨n, rfl⟩ := h k (List.mem_append_left ["a"] hk) x hx
    exact ⟨n, hx⟩

end Json

namespace FieldType

def ColorsPass (t : FieldType) (v : Json) : Prop :=
  ∀ path x, Leads t v path .color x → Meets .color x ∧ (x.IsColor ↔ x.hasColorParts = true)

theorem colorsPass {t : FieldType} {v : Json} (h : t.misfit? v = none) : t.ColorsPass v := by
  intro path x hl
  have hx : Meets .color x := misfit?_meets (hl.passes h)
  exact ⟨hx, Json.IsColor.hasColorParts, Json.isColor_of_meets hx⟩

end FieldType

theorem ComponentType.colorsPass {t : ComponentType} {v : Json} (h : t.fault? v = none) :
    (FieldType.object t.fields).ColorsPass v := by
  rw [← t.faultBy_table, faultBy_eq_none, FieldType.misfitBy_eq_none] at h
  obtain hn | h := h
  · intro path x hl
    rw [hn] at hl
    -- Without fields there is no way down.
    cases hl with
    | field hk => cases hk
  · exact FieldType.colorsPass h

def Happening.declared? : Happening κ → Option String
  | .act (.declare t) _ => some t.name
  | _ => none

namespace World

variable {w u : World κ} {c : String} {t : ComponentType}

/-- A name stands for no other type, and what is attached under it fits this one. -/
structure Keeps (w : World κ) (c : String) (t : ComponentType) : Prop where
  declared {u : ComponentType} : w.types.get? c = some u → u = t
  stored {e : Entity} {v : Json} : w.store.get? e c = some v → t.fault? v = none

theorem Keeps.of_agrees (hk : w.Keeps c t) (ha : w.Agrees u) : u.Keeps c t :=
  ⟨ha.types ▸ hk.declared, ha.store ▸ hk.stored⟩

theorem Keeps.perform (hk : w.Keeps c t) {a : Action κ}
    (ha : ∀ u, a = .declare u → u.name = c → u = t) : (w.perform a).2.Keeps c t := by
  constructor
  · intro u hu
    obtain hs | ⟨u', he, hn, hs⟩ := w.perform_types a c
    · exact hk.declared (hs.symm.trans hu)
    · obtain rfl := Option.some.inj (hs.symm.trans hu)
      exact ha u' he hn
  · intro e v hv
    obtain hs | ht := (w.perform_edit a).stored hv
    · exact hk.stored hs
    · obtain ⟨_, u, hu, hf⟩ := w.perform_written a ht hv
      exact hk.declared hu ▸ hf

end World

namespace History

variable {types : Registry} {g h : History κ} {c : String} {t : ComponentType}

/-- The name stands for no other type, neither at first nor by a declaration. -/
structure Means (types : Registry) (h : History κ) (c : String) (t : ComponentType) : Prop where
  first {u : ComponentType} : types.get? c = some u → u = t
  later {u : ComponentType} {reply : (Action.declare (κ := κ) u).Reply} :
    .act (.declare u) reply ∈ h → u.name = c → u = t

theorem Means.left (hm : Means types (g ++ h) c t) : g.Means types c t :=
  ⟨hm.first, fun hu => hm.later (List.mem_append_left h hu)⟩

theorem Means.keeps (hm : h.Means types c t) :
    (h.foldl Happening.replay ({ types } : World κ)).Keeps c t := by
  induction h using List.reverseRecOn with
  | nil => exact ⟨hm.first, nofun⟩
  | append_singleton h x ih =>
    have hk := ih hm.left
    rw [List.foldl_append, List.foldl_cons, List.foldl_nil]
    cases x with
    | act a reply =>
      refine hk.perform fun u ha => ?_
      subst ha
      exact hm.later (List.mem_append_right h (.head _))
    | _ => exact hk

/-- All that is replayed of entities, components and types is what code does. -/
theorem replay_agrees (timeout : Nat) (types : Registry) (h : History κ) :
    (h.foldl Happening.replay { types }).Agrees (h.replay timeout types).world := by
  induction h using List.reverseRecOn with
  | nil => exact ⟨rfl, rfl, rfl⟩
  | append_singleton h x ih =>
    rw [List.foldl_append, List.foldl_cons, List.foldl_nil, replay_concat]
    cases x with
    | act a reply => exact ih.perform a
    | answer id code o => cases o <;> exact ⟨ih.entities, ih.store, ih.types⟩
    | _ => exact ⟨ih.entities, ih.store, ih.types⟩

end History

theorem Moment.Trail.sent_fits {types : Registry} {h : History κ} {m : Moment κ} {c : String}
    {t : ComponentType} (hh : Trail (.fresh types) h m) (hm : h.Means types c t) {batch : Batch}
    (hb : batch ∈ h.sent) {e : Entity} {v : Json} (ho : .updateComponent e c v ∈ batch.ops) :
    t.fault? v = none := by
  obtain ⟨g, m₀, seq, g', rfl, hg, _, rfl⟩ := hh.sent_at hb
  have hc := ((hg.tracked.mem_sync rfl).mp ho).2
  exact (hm.left.keeps.of_agrees hg.sourced.agrees).stored (Replica.change?_update.mp hc).1

namespace Session

/-- In every value that passes a check, all that passes as a color has the form of one, and is one
just if its parts are digits or numbers, wherever it is. So it is with what is in the store at any
point of a run, and in all that the host was told up to then, under a name that has stood for one
type, such as that of a built-in type that is not declared anew. -/
theorem colors_are_right_if_parts_are (b : Behaviour κ σ) (config : Config) (types : Registry)
    (memory : σ) (moves : List (Move κ σ)) (g g' : History κ)
    (hg : (start config ({ types } : World κ) memory).history b moves = g ++ g') :
    let u := (start config ({ types } : World κ) memory).after b moves
    let w := (g.replay config.queryTimeoutTicks types).world
    (∀ (t : FieldType) v, t.fits v = true → t.ColorsPass v) ∧
    (∀ c t, g.Means types c t →
      (∀ e v, w.store.get? e c = some v → (FieldType.object t.fields).ColorsPass v) ∧
      ∀ batch ∈ g.sent, ∀ e v, .updateComponent e c v ∈ batch.ops →
        (FieldType.object t.fields).ColorsPass v) ∧
    (types = .builtin → "TextShape" ∉ g.filterMap Happening.declared? →
      ∃ t, types.get? "TextShape" = some t ∧ ("color", .color) ∈ t.fields ∧
        g.Means types "TextShape" t) ∧
    (g' = [] → w = u.world) := by
  intro u w
  have hh := start_trail b config types memory moves
  have hu := (run_replayed b config types memory moves).2
  rw [hg] at hh hu
  obtain ⟨m, hh, _⟩ := hh.split g g' rfl
  refine ⟨fun t v hv => FieldType.colorsPass (Option.isNone_iff_eq_none.mp hv),
    fun c t hm => ⟨fun e v hv => ?_, fun batch hb e v ho => ?_⟩, fun ht hn => ?_, fun he => ?_⟩
  · have hk := hm.keeps.of_agrees (g.replay_agrees config.queryTimeoutTicks types)
    exact ComponentType.colorsPass (hk.stored hv)
  · exact ComponentType.colorsPass (hh.sent_fits hm hb ho)
  · subst ht
    refine ⟨_, rfl, .head _, fun hu => (Option.some.inj hu).symm, fun {u reply} hu he => ?_⟩
    have hd : Happening.declared? (.act (.declare u) reply : Happening κ) = some "TextShape" :=
      congrArg some he
    exact absurd (List.mem_filterMap.mpr ⟨_, hu, hd⟩) hn
  · rw [he, List.append_nil] at hu
    exact hu.world

theorem colors_are_right_if_parts_are_red :
    let v : Json := .obj [("color", .str "#ff0000")]
    let s := start {} ({ types := .builtin } : World Unit) ()
    let ms : List (Move Unit Unit) := [.act .create, .act (.attach ⟨1⟩ "TextShape" v)]
    (s.after .idle ms).world.store.get? ⟨1⟩ "TextShape" = some v ∧
      (Json.str "#ff0000").IsColor := by
  intro v s ms
  have hv : (s.after .idle ms).world.store.get? ⟨1⟩ "TextShape" = some v := rfl
  have hn : "TextShape" ∉ (s.history .idle ms).filterMap Happening.declared? := by decide +kernel
  obtain ⟨_, hc, ht, hu⟩ := colors_are_right_if_parts_are .idle {} .builtin () ms
    (s.history .idle ms) [] (List.append_nil _).symm
  rw [hu rfl] at hc
  obtain ⟨t, _, hk, hm⟩ := ht rfl hn
  have hx := (hc "TextShape" t hm).1 ⟨1⟩ v hv [.field "color"] _ (.field hk rfl (.here _ _))
  exact ⟨hv, hx.2.mpr (by decide)⟩

/-- Neither a text without digits nor an object without numbers is kept from being a color. -/
theorem letters_pass_as_color :
    let x : Json := .str "#zzzzzz"
    let y : Json := .obj [("b", .null), ("g", .null), ("r", .null)]
    let s := start {} ({ types := .builtin } : World Unit) ()
    let ms : List (Move Unit Unit) :=
      [.act .create, .act (.attach ⟨1⟩ "TextShape" (.obj [("color", x)])), .tick ⟨0⟩]
    FieldType.color.fits x = true ∧ ¬ x.IsColor ∧ FieldType.color.fits y = true ∧ ¬ y.IsColor ∧
      (s.after .idle ms).link.toHost.frames = ["\x7b\"tickSeq\":1,\"ops\":[" ++
        "\x7b\"op\":\"createEntity\",\"entityId\":1\x7d," ++
        "\x7b\"op\":\"updateComponent\",\"entityId\":1,\"component\":\"TextShape\"," ++
        "\"value\":\x7b\"color\":\"#zzzzzz\"\x7d\x7d]\x7d"] := by
  intro x y s ms
  refine ⟨by decide, fun h => ?_, by decide, fun h => ?_, by decide +kernel⟩
  · exact absurd h.hasColorParts (by decide)
  · exact absurd h.hasColorParts (by decide)

end Session

end Diorama
