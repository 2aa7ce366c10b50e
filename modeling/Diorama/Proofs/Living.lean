import Diorama.Proofs.Course
import Diorama.Proofs.Lookup

namespace Diorama

variable {κ : Type}

inductive Entities.Step (es : Entities) : Option Entity → Option Entity → Entities → Prop
  | create : Step es (some ⟨es.next⟩) none es.create.2
  | destroy {e : Entity} (ha : es.isAlive e = true) :
      Step es none (some e) { es with alive := es.alive.erase e }
  | stay : Step es none none es

theorem Entities.Step.eq_next {es es' : Entities} {e : Entity} {destroyed? : Option Entity}
    (h : es.Step (some e) destroyed? es') : e = ⟨es.next⟩ := by
  cases h
  rfl

theorem Scene.Edit.entities {s s' : Scene} {created? destroyed? : Option Entity}
    {touched? : Option (Entity × String)} (h : s.Edit created? destroyed? touched? s') :
    s.entities.Step created? destroyed? s'.entities := by
  cases h with
  | create => exact .create
  | destroy ha => exact .destroy ha
  | _ => exact .stay

theorem Moment.Step.entities {m m' : Moment κ} {x : Happening κ} (hx : Step m x m') :
    m.world.entities.Step x.created? x.destroyed? m'.world.entities := by
  cases hx with
  | act a hp => exact (m.world.perform_edit a).entities
  | _ => exact .stay

def History.isLiving (h : History κ) (e : Entity) : Bool := e ∈ h.created ∧ e ∉ h.destroyed

structure Census (h : History κ) (es : Entities) : Prop where
  alive (e : Entity) : es.isAlive e = h.isLiving e
  issued {e : Entity} : e ∈ h.created → e.id < es.next
  known {e : Entity} : e ∈ h.destroyed → e ∈ h.created

namespace Census

variable {h : History κ} {x : Happening κ} {es es' : Entities}

theorem fresh : Census ([] : History κ) {} where
  alive _ := rfl
  issued he := absurd he List.not_mem_nil
  known he := absurd he List.not_mem_nil

theorem new (hc : Census h es) : ⟨es.next⟩ ∉ h.created := fun he =>
  Nat.lt_irrefl _ (hc.issued he)

theorem step (hc : Census h es) (hx : es.Step x.created? x.destroyed? es') :
    Census (h ++ [x]) es' := by
  have he : (h ++ [x] : History κ).created = h.created ++ x.created?.toList := filterMap_concat ..
  have hd : (h ++ [x] : History κ).destroyed = h.destroyed ++ x.destroyed?.toList :=
    filterMap_concat ..
  generalize x.created? = created? at hx he
  generalize x.destroyed? = destroyed? at hx hd
  cases hx with
  | create =>
    have hn : ⟨es.next⟩ ∉ h.destroyed := fun hm => hc.new (hc.known hm)
    refine ⟨fun e => ?_, fun {e} hm => ?_, fun hm => ?_⟩
    · rw [Entities.isAlive_create, hc.alive, History.isLiving, History.isLiving, he, hd]
      by_cases hs : ⟨es.next⟩ = e
      · subst hs
        simp [hn]
      · simp [hs, Ne.symm hs]
    · rw [he, List.mem_append] at hm
      obtain hm | hm := hm
      · exact Nat.lt_succ_of_lt (hc.issued hm)
      · rw [List.mem_singleton.mp hm]
        exact Nat.lt_succ_self _
    · rw [hd, Option.toList_none, List.append_nil] at hm
      rw [he]
      exact List.mem_append_left _ (hc.known hm)
  | @destroy x ha =>
    rw [Option.toList_none, List.append_nil] at he
    refine ⟨fun e => ?_, fun hm => hc.issued (he ▸ hm), fun hm => ?_⟩
    · rw [Entities.isAlive_erase, hc.alive, History.isLiving, History.isLiving, he, hd]
      by_cases hs : x = e
      · simp [hs]
      · simp [hs, Ne.symm hs]
    · rw [hd, List.mem_append] at hm
      rw [he]
      obtain hm | hm := hm
      · exact hc.known hm
      · rw [List.mem_singleton.mp hm]
        have hl := (hc.alive x).symm.trans ha
        exact (of_decide_eq_true hl).1
  | stay =>
    rw [Option.toList_none, List.append_nil] at he hd
    refine ⟨fun e => ?_, fun hm => hc.issued (he ▸ hm), fun hm => ?_⟩
    · rw [hc.alive, History.isLiving, History.isLiving, he, hd]
    · rw [hd] at hm
      exact he ▸ hc.known hm

end Census

namespace Moment

variable {m : Moment κ} {h : History κ} {types : Registry}

theorem Trail.census (hh : Trail (.fresh types) h m) : Census h m.world.entities := by
  induction hh with
  | nil => exact .fresh
  | snoc _ hx ih => exact ih.step hx.entities

theorem Trail.isAlive_eq (hh : Trail (.fresh types) h m) (e : Entity) :
    m.world.isAlive e = h.isLiving e := hh.census.alive e

end Moment

end Diorama
