import Diorama.Proofs.Framing
import Diorama.Proofs.RoundTrip

namespace Diorama

open Diorama.Frame

/-- A kind of messages: how they are written as texts, and which of them are read as they were. -/
structure Codec (α : Type) where
  text : α → String
  parse : List Char → Except Fault α
  IsReadable : α → Prop
  parse_text (a : α) : IsReadable a → parse (text a).toList = .ok a
  parse_nil (a : α) : parse [] ≠ .ok a

def HostMessage.codec : Codec HostMessage where
  text := HostMessage.text
  parse := HostMessage.parse
  IsReadable m := m.Plain ∧ m.payload.height ≤ 126
  parse_text _ hm := (HostMessage.parse_text hm.1).trans (if_pos hm.2)
  parse_nil _ := nofun

def Batch.codec : Codec Batch where
  text := Batch.text
  parse := Batch.parse
  IsReadable b := b.Plain ∧ ∀ v ∈ b.values, v.height ≤ 124
  parse_text _ hb := (Batch.parse_text hb.1).trans (if_pos (Json.heightItems_le.mpr hb.2))
  parse_nil _ := nofun

namespace Codec

variable {α : Type} {c : Codec α}

inductive Part (α : Type) where
  | message (a : α)
  /-- A text that is no message, with what a reader finds wrong with it. -/
  | other (text : String) (fault : Fault)

def partText (c : Codec α) : Part α → String
  | .message a => c.text a
  | .other text _ => text

/-- What stands in a stream when parts have been written to it in order. -/
def stream (c : Codec α) (max : Nat) (parts : List (Part α)) : List UInt8 :=
  fill max [] (parts.map c.partText)

/-- What a part may be. Any message may be too long. -/
def Allows (c : Codec α) (max : Nat) : Part α → Prop
  | .message a => c.IsReadable a
  | .other text fault => text ≠ "" ∧ text.utf8ByteSize ≤ max ∧ c.parse text.toList = .error fault

def result? (c : Codec α) (max : Nat) : Part α → Option (Except FrameError α)
  | .message a => if (c.text a).utf8ByteSize ≤ max then some (.ok a) else none
  | .other _ fault => some (.error (.unreadable fault))

/-- A stream of such parts keeps its messages apart. -/
structure KeepsApart (c : Codec α) (max : Nat) (parts : List (Part α)) : Prop where
  accepts (a : α) : .message a ∈ parts →
    ((write max (c.text a)).isOk = true ↔ (c.text a).utf8ByteSize ≤ max)
  refuses (a : α) (buffer : List UInt8) : .message a ∈ parts →
    (write max (c.text a)).isOk = false → fill max buffer [c.text a] = buffer
  results : readAll (readMessage c.parse max) (c.stream max parts) =
    (parts.filterMap (c.result? max) ++ [.error .closed], [])

theorem text_ne_empty {a : α} (ha : c.IsReadable a) : c.text a ≠ "" := by
  intro he
  have hp := c.parse_text a ha
  rw [he] at hp
  exact c.parse_nil a hp

section
variable {max : Nat} (hmax : max < 0x1_0000_0000)
include hmax

theorem readMessage_encode {text : String} (hm : text.utf8ByteSize ≤ max) (h0 : text ≠ "")
    (rest : List UInt8) : readMessage c.parse max (encode text ++ rest) =
      ((c.parse text.toList).mapError .unreadable, rest) := by
  rw [readMessage, read_encode hm (Nat.lt_of_le_of_lt hm hmax) h0]

theorem readAll_stream_cons {part : Part α} (hp : c.Allows max part) (parts : List (Part α)) :
    readAll (readMessage c.parse max) (c.stream max (part :: parts)) =
      ((c.result? max part).toList ++ (readAll (readMessage c.parse max) (c.stream max parts)).1,
        (readAll (readMessage c.parse max) (c.stream max parts)).2) := by
  have ha := readMessage_advances c.parse max
  rw [stream, List.map_cons]
  cases part with
  | message a =>
    by_cases hm : (c.text a).utf8ByteSize ≤ max
    · have hr := readMessage_encode (c := c) hmax hm (text_ne_empty hp) (c.stream max parts)
      rw [c.parse_text a hp] at hr
      rw [partText, fill_cons hm, ← stream, readAll_goesOn ha hr rfl, result?, if_pos hm]
      rfl
    · rw [partText, fill_refused (Nat.lt_of_not_le hm), ← stream, result?, if_neg hm]
      rfl
  | other text fault =>
    obtain ⟨h0, hm, hf⟩ := hp
    have hr := readMessage_encode (c := c) hmax hm h0 (c.stream max parts)
    rw [hf] at hr
    rw [partText, fill_cons hm, ← stream, readAll_goesOn ha hr rfl]
    rfl

theorem readAll_stream {parts : List (Part α)} (hp : ∀ part ∈ parts, c.Allows max part) :
    readAll (readMessage c.parse max) (c.stream max parts) =
      (parts.filterMap (c.result? max) ++ [.error .closed], []) := by
  induction parts with
  | nil => exact readAll_ends (show readMessage c.parse max [] = (.error .closed, []) from rfl) rfl
  | cons part parts ih =>
    obtain ⟨hp, hps⟩ := List.forall_mem_cons.mp hp
    rw [readAll_stream_cons hmax hp, ih hps, List.filterMap_cons]
    cases c.result? max part <;> rfl

theorem keepsApart {parts : List (Part α)} (hp : ∀ part ∈ parts, c.Allows max part) :
    c.KeepsApart max parts where
  accepts _ _ := write_isOk
  refuses a buffer _ hw := by
    have hm : max < (c.text a).utf8ByteSize := by
      have hw : ¬ (write max (c.text a)).isOk = true := by
        rw [hw]
        exact Bool.false_ne_true
      exact Nat.lt_of_not_le fun hm => hw (write_isOk.mpr hm)
    exact fill_refused hm buffer []
  results := readAll_stream hmax hp

end

end Codec

/-- Messages that are written to one stream are read from it in order, without those that were too
long for a frame. A text that is no message is one more error between them and nothing else. -/
theorem messages_keep_apart {max : Nat} (hmax : max < 0x1_0000_0000) :
    (∀ parts, (∀ part ∈ parts, HostMessage.codec.Allows max part) →
      HostMessage.codec.KeepsApart max parts) ∧
    ∀ parts, (∀ part ∈ parts, Batch.codec.Allows max part) → Batch.codec.KeepsApart max parts :=
  ⟨fun _ hp => Codec.keepsApart hmax hp, fun _ hp => Codec.keepsApart hmax hp⟩

theorem messages_keep_apart_short :
    let event : HostMessage := .event "e" (some ⟨7⟩) (.nested 1)
    let long : HostMessage := .event "e" none (.str "this is too long for a frame")
    let response : HostMessage := .response ⟨"q1"⟩ .null none
    let batch : Batch := ⟨1, [.createEntity ⟨7⟩], []⟩
    readAll (readMessage HostMessage.parse 62) (HostMessage.codec.stream 62
        [.message event, .other "nope" .malformed, .message long, .other "{}" .mismatch,
          .message response]) =
      ([.ok event, .error (.unreadable .malformed), .error (.unreadable .mismatch), .ok response,
        .error .closed], []) ∧
    readAll (readMessage Batch.parse 62) (Batch.codec.stream 62
        [.other "[1]" .mismatch, .message batch]) =
      ([.error (.unreadable .mismatch), .ok batch, .error .closed], []) := by
  intro event long response batch
  have hmax : 62 < 0x1_0000_0000 := by decide
  obtain ⟨hm, hb⟩ := messages_keep_apart hmax
  have he : HostMessage.codec.IsReadable event :=
    ⟨⟨by simp [event, HostMessage.entity?], rfl⟩, by decide⟩
  have hl : HostMessage.codec.IsReadable long :=
    ⟨⟨by simp [long, HostMessage.entity?], rfl⟩, by decide⟩
  have hr : HostMessage.codec.IsReadable response :=
    ⟨⟨by simp [response, HostMessage.entity?], rfl⟩, by decide⟩
  have hv : batch.values = [] := rfl
  have hc : Batch.codec.IsReadable batch :=
    ⟨⟨by decide, by simp [batch, Operation.entity], by simp [hv]⟩, by simp [hv]⟩
  refine ⟨(hm _ ?_).results.trans ?_, (hb _ ?_).results.trans ?_⟩
  · have hs : "nope" ≠ "" ∧ "nope".utf8ByteSize ≤ 62 ∧ "{}" ≠ "" ∧
        "{}".utf8ByteSize ≤ 62 := by decide
    simp only [List.forall_mem_cons, Codec.Allows]
    exact ⟨he, ⟨hs.1, hs.2.1, rfl⟩, hl, ⟨hs.2.2.1, hs.2.2.2, rfl⟩, hr,
      List.forall_mem_nil _⟩
  · have hs : event.text.utf8ByteSize ≤ 62 ∧ ¬ long.text.utf8ByteSize ≤ 62 ∧
        response.text.utf8ByteSize ≤ 62 := by decide +kernel
    simp only [List.filterMap_cons, Codec.result?, HostMessage.codec, if_pos hs.1, if_neg hs.2.1,
      if_pos hs.2.2]
    rfl
  · simp only [List.forall_mem_cons, Codec.Allows]
    exact ⟨⟨by decide, by decide, rfl⟩, hc, List.forall_mem_nil _⟩
  · have hs : batch.text.utf8ByteSize ≤ 62 := by decide +kernel
    simp only [List.filterMap_cons, Codec.result?, Batch.codec, if_pos hs]
    rfl

end Diorama
