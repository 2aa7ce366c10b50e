import Diorama.Proofs.Atomicity

namespace Diorama

namespace FieldType

mutual

theorem ofJson?_toJson (inner : Bool) : ∀ t : FieldType, ofJson? inner t.toJson = some t
  | .number | .string | .bool | .vec2 | .vec3 | .quaternion | .color | .entity | .any => by
    cases inner <;> rfl
  | .array element => by
    have he := ofJson?_toJson true element
    simp [toJson, ofJson?, find?, name?, element?, he]
  | .object fields => by
    have hf := declaredFields?_toJsonFields true fields
    simp [toJson, ofJson?, find?, name?, fields?, declared?, hf]

theorem declaredFields?_toJsonFields (inner : Bool) :
    ∀ fields : List (String × FieldType), declaredFields? inner (toJsonFields fields) = some fields
  | [] => rfl
  | (k, t) :: fields => by
    have ht := ofJson?_toJson inner t
    have hf := declaredFields?_toJsonFields inner fields
    simp [toJsonFields, declaredFields?, ht, hf]

end

end FieldType

namespace ComponentType

/-- What is read from the document of a type. A default that is null is taken for none. -/
def reread (t : ComponentType) : ComponentType :=
  match t.default? with
  | some .null => { t with default? := none }
  | _ => t

variable {t : ComponentType}

theorem reread_null (h : t.default? = some .null) : t.reread = { t with default? := none } := by
  rw [reread, h]

theorem reread_eq_self (h : t.default? ≠ some .null) : t.reread = t := by
  rw [reread]
  split
  · contradiction
  · rfl

theorem reread_name (t : ComponentType) : t.reread.name = t.name := by
  rw [reread]
  split <;> rfl

theorem reread_fields (t : ComponentType) : t.reread.fields = t.fields := by
  rw [reread]
  split <;> rfl

theorem reread_fault? (t : ComponentType) (v : Json) : t.reread.fault? v = t.fault? v := by
  simp only [fault?, reread_fields, reread_name]

theorem ofJson?_toJson (t : ComponentType) : ofJson? t.toJson = some t.reread := by
  obtain ⟨name, fields, default?⟩ := t
  have hf := FieldType.declaredFields?_toJsonFields false fields
  obtain _ | v := default?
  · simp [ofJson?, toJson, Json.parts?, ofParts?, Parts.pick?, find?, Json.string?,
      FieldType.declared?, hf, Json.optional?, reread]
  · cases v <;>
      simp [ofJson?, toJson, Json.parts?, ofParts?, Parts.pick?, find?, Json.string?,
        FieldType.declared?, hf, Json.optional?, reread]

end ComponentType

namespace World

variable {κ : Type}

theorem base_declared {w : World κ} {e : Entity} (t : ComponentType) (ha : w.isAlive e = true)
    (hv : w.get? e t.name = none) : (w.declare t).base e t.name =
      match t.default? with
      | none => .error (.componentNotFound e t.name)
      | some v => .ok v := by
  have hb := base_alive (w := w.declare t) (c := t.name) ha
  have hg : (w.declare t).get? e t.name = none := hv
  rw [hb, hg, declared, if_pos rfl]
  rfl

section
variable (w : World κ) (t : ComponentType) (e : Entity) (c : String)

theorem perform_attach_reread (v : Json) :
    ((w.declare t.reread).perform (.attach e c v)).1 = ((w.declare t).perform (.attach e c v)).1 ∧
      ((w.declare t.reread).perform (.attach e c v)).2.scene =
        ((w.declare t).perform (.attach e c v)).2.scene := by
  simp only [perform]
  cases ha : w.isAlive e with
  | false =>
    have hd (u : ComponentType) : (w.declare u).attach e c v = .error (.unknownEntity e) :=
      attach_dead (w := w.declare u) ha v
    rw [hd, hd]
    exact ⟨rfl, rfl⟩
  | true =>
    have hl (u : ComponentType) := attach_alive (w := w.declare u) (c := c) ha v
    rw [hl, hl, declared, declared, t.reread_name]
    by_cases hc : t.name = c
    · simp only [if_pos hc, t.reread_fault?]
      cases t.fault? v <;> exact ⟨rfl, rfl⟩
    · simp only [if_neg hc]
      cases w.types.get? c with
      | none => exact ⟨rfl, rfl⟩
      | some u => cases hu : u.fault? v <;> simp only [hu] <;> exact ⟨rfl, rfl⟩

theorem base_reread :
    (w.declare t.reread).base e c = (w.declare t).base e c ∨
      (t.default? = some .null ∧ t.name = c ∧ w.isAlive e = true ∧ w.get? e c = none) ∧
        (w.declare t).base e c = .ok .null ∧
        (w.declare t.reread).base e c = .error (.componentNotFound e c) := by
  by_cases hd : t.default? = some .null
  · cases ha : w.isAlive e with
    | false =>
      have hn (u : ComponentType) : (w.declare u).base e c = .error (.unknownEntity e) :=
        base_dead ha
      exact .inl ((hn _).trans (hn _).symm)
    | true =>
      by_cases hn : t.name = c ∧ w.get? e c = none
      · obtain ⟨rfl, hv⟩ := hn
        have hs := base_declared t ha hv
        have hr := base_declared { t with default? := none } ha hv
        rw [hd] at hs
        rw [ComponentType.reread_null hd]
        exact .inr ⟨⟨hd, rfl, rfl, hv⟩, hs, hr⟩
      · have hb (u : ComponentType) := base_alive (w := w.declare u) (c := c) ha
        have hg (u : ComponentType) : (w.declare u).get? e c = w.get? e c := rfl
        left
        rw [hb, hb, hg, hg, declared, declared, t.reread_name]
        by_cases hc : t.name = c
        · obtain ⟨v, hv⟩ := Option.ne_none_iff_exists'.mp fun hv => hn ⟨hc, hv⟩
          simp only [if_pos hc, hv]
          rfl
        · simp only [if_neg hc]
  · rw [ComponentType.reread_eq_self hd]
    exact .inl rfl

end

end World

namespace ComponentType

/-- A type is read back from its document as it was, with all that its fields nest, unless its
default is null; then what is read has no default, and is the same otherwise. A world that declares
what was read takes the same values, and changes start from the same ones, but for a component that
would start from null. -/
theorem types_are_read_back (t : ComponentType) :
    ∃ t', ofJson? t.toJson = some t' ∧
      (t.default? ≠ some .null → t' = t) ∧
      (t.default? = some .null → t' = { t with default? := none }) ∧
      ∀ (κ : Type) (w : World κ) (e : Entity) (c : String),
        (∀ v, ((w.declare t').perform (.attach e c v)).1 =
            ((w.declare t).perform (.attach e c v)).1 ∧
          ((w.declare t').perform (.attach e c v)).2.scene =
            ((w.declare t).perform (.attach e c v)).2.scene) ∧
        ((w.declare t').base e c = (w.declare t).base e c ∨
          (t.default? = some .null ∧ t.name = c ∧ w.isAlive e = true ∧ w.get? e c = none) ∧
            (w.declare t).base e c = .ok .null ∧
            (w.declare t').base e c = .error (.componentNotFound e c)) :=
  ⟨t.reread, t.ofJson?_toJson, reread_eq_self, reread_null, fun _ w e c =>
    ⟨w.perform_attach_reread t e c, w.base_reread t e c⟩⟩

theorem types_are_read_back_nested :
    let t : ComponentType := ⟨"Path", [("points", .array (.object [("at", .vec2),
      ("tints", .array .color)])), ("type", .any)], some (.obj [("points", .arr []),
        ("type", Registry.one)])⟩
    let w : World Unit := (({} : World Unit).create).2
    ofJson? t.toJson = some t ∧ (w.declare t).base ⟨1⟩ "Path" =
      .ok (.obj [("points", .arr []), ("type", Registry.one)]) := by
  intro t w
  obtain ⟨t', ht, he, _⟩ := types_are_read_back t
  obtain rfl := he (by simp [t])
  exact ⟨ht, World.base_declared t (by decide +kernel) rfl⟩

/-- A default that is null is lost, and a change that started from it then finds nothing to start
from. -/
theorem null_default_is_lost :
    let t : ComponentType := { name := "N", default? := some .null }
    let w : World Unit := (({} : World Unit).create).2
    ofJson? t.toJson ≠ some t ∧ ofJson? t.toJson = some { name := "N" } ∧
      (w.declare t).base ⟨1⟩ "N" = .ok .null ∧
      (w.declare { name := "N" }).base ⟨1⟩ "N" = .error (.componentNotFound ⟨1⟩ "N") := by
  intro t w
  have hr : ofJson? t.toJson = some { name := "N" } := rfl
  refine ⟨fun h => ?_, hr, World.base_declared t (by decide +kernel) rfl,
    World.base_declared { name := "N" } (by decide +kernel) rfl⟩
  have hd := congrArg ComponentType.default? (Option.some.inj (hr.symm.trans h))
  cases hd

end ComponentType

end Diorama
