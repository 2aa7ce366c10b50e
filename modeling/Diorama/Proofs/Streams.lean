import Diorama.Proofs.Framing

namespace Diorama

namespace Frame

theorem word_ofWord (a b c d : UInt8) : word (ofWord a b c d) = [a, b, c, d] := by
  have ha := a.toNat_lt
  have hb := b.toNat_lt
  have hc := c.toNat_lt
  have hd := d.toNat_lt
  simp only [word, ofWord, List.cons.injEq, and_true, ← UInt8.toNat_inj, UInt8.toNat_ofNat']
  omega

theorem utf8_ofUtf8? {bytes : List UInt8} {text : String} (h : ofUtf8? bytes = some text) :
    utf8 text = bytes := by
  rw [ofUtf8?, String.fromUTF8?] at h
  split at h
  · cases h
    rw [utf8_eq]
    rfl
  · cases h

@[simp] theorem length_encode (text : String) : (encode text).length = text.utf8ByteSize + 4 := by
  rw [encode, List.length_append, length_utf8, Nat.add_comm]
  rfl

section
variable {max : Nat} {s t rest : List UInt8} {text : String} {texts : List String}

theorem read_ok (hr : read max s = (.ok text, rest)) :
    text ≠ "" ∧ text.utf8ByteSize ≤ max ∧ s = encode text ++ rest := by
  obtain _ | ⟨a, _ | ⟨b, _ | ⟨c, _ | ⟨d, body⟩⟩⟩⟩ := s
  any_goals cases hr
  simp only [read] at hr
  by_cases hm : max < ofWord a b c d
  · rw [if_pos hm] at hr
    cases hr
  by_cases h0 : ofWord a b c d = 0
  · rw [if_neg hm, if_pos h0] at hr
    cases hr
  by_cases hl : body.length < ofWord a b c d
  · rw [if_neg hm, if_neg h0, if_pos hl] at hr
    cases hr
  rw [if_neg hm, if_neg h0, if_neg hl] at hr
  rcases ht : ofUtf8? (body.take (ofWord a b c d)) with _ | text' <;> rw [ht] at hr <;> cases hr
  have hb := utf8_ofUtf8? ht
  have hs : text.utf8ByteSize = ofWord a b c d := by
    rw [← length_utf8, hb, List.length_take]
    omega
  refine ⟨fun he => h0 ?_, by omega, ?_⟩
  · rw [← hs, he, String.utf8ByteSize_empty]
  · rw [encode, hs, word_ofWord, hb, List.append_assoc, List.take_append_drop]
    rfl

theorem Reading.written (h : Reading max s texts rest) :
    (∀ text ∈ texts, text ≠ "" ∧ text.utf8ByteSize ≤ max) ∧ s = fill max [] texts ++ rest := by
  induction h with
  | done s => exact ⟨nofun, rfl⟩
  | next hr _ ih =>
    obtain ⟨h0, hm, rfl⟩ := read_ok hr
    obtain ⟨hs, rfl⟩ := ih
    refine ⟨List.forall_mem_cons.mpr ⟨⟨h0, hm⟩, hs⟩, ?_⟩
    rw [fill_cons hm, List.append_assoc]

theorem Reading.length_le (h : Reading max s texts rest) :
    5 * texts.length + rest.length ≤ s.length := by
  induction h with
  | done s => simp
  | @next s t rest text texts hr _ ih =>
    have hl : t.length + 5 ≤ s.length := by
      have hl := read_advances max s
      rw [hr] at hl
      exact hl rfl
    rw [List.length_cons]
    omega

end

/-- Reading a stream a frame at a time comes to an error after at most one call for every five bytes
and one more. The frames until then are texts that can be written, and writing them gives the very
bytes that they took. So a stream is known by its frames and the bytes they leave, in particular if
they leave none. -/
theorem readings_are_written_back (max : Nat) (s : List UInt8) :
    (∃ e rest left, Reading max s (frames max s) rest ∧ read max rest = (.error e, left) ∧
      readAll (read max) s = ((frames max s).map .ok ++ [.error e], left) ∧
      (readAll (read max) s).1.length ≤ s.length / 5 + 1 ∧
      (∀ text ∈ frames max s, text ≠ "" ∧ text.utf8ByteSize ≤ max ∧
        (write max text).isOk = true) ∧
      s = fill max [] (frames max s) ++ rest) ∧
    ∀ t texts rest, Reading max s texts rest → Reading max t texts rest → s = t := by
  constructor
  · obtain ⟨e, rest, left, hs, he⟩ := exists_reading max s
    obtain ⟨hb, hw⟩ := hs.written
    have hl := hs.length_le
    refine ⟨e, rest, left, hs, he, hs.ends he, ?_, fun text hm => ?_, hw⟩
    · rw [hs.ends he, List.length_append, List.length_map, List.length_singleton]
      omega
    · obtain ⟨h0, hm⟩ := hb text hm
      exact ⟨h0, hm, write_isOk.mpr hm⟩
  · intro t texts rest hs ht
    rw [hs.written.2, ht.written.2]

theorem readings_are_written_back_pair :
    let s := [0, 0, 0, 2, 0x7b, 0x7d, 0]
    Reading 3 s ["{}"] [0] ∧ Reading 3 (encode "{}" ++ [0]) ["{}"] [0] ∧
      s = encode "{}" ++ [0] := by
  have hu : ofUtf8? [0x7b, 0x7d] = some "{}" := by decide +kernel
  have hs : read 3 [0, 0, 0, 2, 0x7b, 0x7d, 0] = (.ok "{}", [0]) := by simp [read, ofWord, hu]
  have ht : read 3 (encode "{}" ++ [0]) = (.ok "{}", [0]) :=
    read_encode (by decide) (by decide) (by decide) [0]
  have hs := Reading.next hs (.done _)
  have ht := Reading.next ht (.done _)
  exact ⟨hs, ht, (readings_are_written_back 3 _).2 _ _ _ hs ht⟩

/-- The length of a buffer to which the first texts have been written. -/
def boundary (max : Nat) (texts : List String) (n : Nat) : Nat :=
  (fill max [] (texts.take n)).length

/-- As many bytes are the first frames, with none of the next. -/
def IsBoundary (max : Nat) (texts : List String) (k : Nat) : Prop :=
  ∃ n ≤ texts.length, k = boundary max texts n

/-- As many bytes end with a part of a frame's length. -/
def InLength (max : Nat) (texts : List String) (k : Nat) : Prop :=
  ∃ n < texts.length, boundary max texts n < k ∧ k < boundary max texts n + 4

section
variable {max : Nat} {text : String} {texts : List String}

@[simp] theorem boundary_zero : boundary max texts 0 = 0 := rfl

theorem boundary_length (texts : List String) :
    boundary max texts texts.length = (fill max [] texts).length := by
  rw [boundary, List.take_length]

theorem boundary_cons (hm : text.utf8ByteSize ≤ max) (texts : List String) (n : Nat) :
    boundary max (text :: texts) (n + 1) = text.utf8ByteSize + 4 + boundary max texts n := by
  rw [boundary, List.take_succ_cons, fill_cons hm, List.length_append, length_encode, boundary]

theorem boundary_mono (max : Nat) (texts : List String) {m n : Nat} (h : m ≤ n) :
    boundary max texts m ≤ boundary max texts n := by
  rw [boundary, boundary, ← Nat.add_sub_cancel' h, List.take_add, fill_eq, fill_eq,
    List.filter_append, List.flatMap_append]
  simp

theorem read_part (hm : text.utf8ByteSize ≤ max) (hn : max < 0x1_0000_0000) {k : Nat}
    (hk : k < text.utf8ByteSize + 4) :
    read max ((encode text).take k) = (.error (if k < 4 then .closed else .cut), []) := by
  obtain ⟨a, b, c, d, he, hl⟩ := encode_eq (Nat.lt_of_le_of_lt hm hn)
  rw [he]
  obtain _ | _ | _ | _ | k := k
  any_goals rfl
  have hc : ((utf8 text).take k).length < text.utf8ByteSize := by
    rw [List.length_take, length_utf8]
    omega
  simp only [List.take_succ_cons, read, hl]
  rw [if_neg (Nat.not_lt.mpr hm), if_neg (by omega), if_pos hc, if_neg (by omega)]

/-- The frames that are whole are read, and the part of the next is left. -/
theorem exists_cut (hw : ∀ text ∈ texts, text ≠ "" ∧ text.utf8ByteSize ≤ max)
    (hn : max < 0x1_0000_0000) {k : Nat} (hk : k ≤ (fill max [] texts).length) :
    ∃ n ≤ texts.length, boundary max texts n ≤ k ∧
      (n < texts.length → k < boundary max texts (n + 1)) ∧
      ∃ part, Reading max ((fill max [] texts).take k) (texts.take n) part ∧
        read max part = (.error (if k < boundary max texts n + 4 then .closed else .cut), []) := by
  induction texts generalizing k with
  | nil =>
    have hk : k = 0 := Nat.le_zero.mp hk
    subst hk
    exact ⟨0, Nat.le_refl 0, Nat.le_refl 0, nofun, [], .done [], rfl⟩
  | cons text texts ih =>
    obtain ⟨⟨h0, hm⟩, hws⟩ := List.forall_mem_cons.mp hw
    rw [fill_cons hm] at hk ⊢
    by_cases hl : k < text.utf8ByteSize + 4
    · -- The cut is in the first frame, and nothing is read.
      have hp : (encode text ++ fill max [] texts).take k = (encode text).take k :=
        List.take_append_of_le_length (by rw [length_encode]; omega)
      refine ⟨0, Nat.zero_le _, Nat.zero_le _, fun _ => ?_, _, .done _, ?_⟩
      · rw [boundary_cons hm, boundary_zero]
        omega
      · rw [hp, read_part hm hn hl, boundary_zero, Nat.zero_add]
    · -- The first frame is read, and the cut is as far behind it as `j` says.
      obtain ⟨j, rfl⟩ := Nat.exists_eq_add_of_le (Nat.le_of_not_lt hl)
      rw [List.length_append, length_encode] at hk
      obtain ⟨n, hn', hb, hs, part, hr, he⟩ := ih hws (show j ≤ (fill max [] texts).length by omega)
      refine ⟨n + 1, Nat.succ_le_succ hn', ?_, fun hl => ?_, part, .next ?_ hr, ?_⟩
      · rw [boundary_cons hm]
        omega
      · have hs := hs (Nat.lt_of_succ_lt_succ hl)
        rw [boundary_cons hm]
        omega
      · rw [← length_encode, List.take_length_add_append]
        exact read_encode hm (by omega) h0 _
      · rw [he, boundary_cons hm, Nat.add_assoc (text.utf8ByteSize + 4)]
        simp only [Nat.add_lt_add_iff_left]

/-- A cut between the ends of two frames: the frames before it are those that end by then, and it is
in a text if more than the length of the next frame comes before it. -/
theorem cut_between {n k : Nat} (hn : n ≤ texts.length) (hk : k ≤ (fill max [] texts).length)
    (hb : boundary max texts n ≤ k) (hs : n < texts.length → k < boundary max texts (n + 1)) :
    (∀ i < texts.length, boundary max texts (i + 1) ≤ k ↔ i < n) ∧
      (k < boundary max texts n + 4 ↔ IsBoundary max texts k ∨ InLength max texts k) := by
  have before {i : Nat} (hi : i ≤ texts.length) (h : boundary max texts i ≤ k) : i ≤ n := by
    refine Nat.le_of_not_lt fun hni => ?_
    have hs := hs (Nat.lt_of_lt_of_le hni hi)
    have hm : boundary max texts (n + 1) ≤ boundary max texts i := boundary_mono max texts hni
    omega
  have after {i : Nat} (h : i ≤ n) : boundary max texts i ≤ k :=
    Nat.le_trans (boundary_mono max texts h) hb
  refine ⟨fun i hi => ⟨before hi, after⟩, fun h => ?_, ?_⟩
  · rcases Nat.eq_or_lt_of_le hb with he | hl
    · exact .inl ⟨n, hn, he.symm⟩
    · refine .inr ⟨n, Nat.lt_of_le_of_ne hn fun he => ?_, hl, h⟩
      rw [he, boundary_length] at hl
      omega
  · rintro (⟨i, hi, rfl⟩ | ⟨i, hi, hl, h⟩)
    · have hm := boundary_mono max texts (before hi (Nat.le_refl _))
      omega
    · have hm := boundary_mono max texts (before (Nat.le_of_lt hi) (Nat.le_of_lt hl))
      omega

end

/-- Of a stream of frames that is cut, the frames that are whole are read. If it is cut in the text
of a frame, the error behind them tells so. It tells of an end between two frames if there is one,
but also if the stream is cut in the length of a frame. -/
theorem cut_texts_are_noticed {max : Nat} (hn : max < 0x1_0000_0000) {texts : List String}
    (hw : ∀ text ∈ texts, text ≠ "" ∧ text.utf8ByteSize ≤ max) {k : Nat}
    (hk : k ≤ (fill max [] texts).length) :
    ∃ n ≤ texts.length, ∃ e,
      (∀ i < texts.length, boundary max texts (i + 1) ≤ k ↔ i < n) ∧
      readAll (read max) ((fill max [] texts).take k) =
        ((texts.take n).map .ok ++ [.error e], []) ∧
      (e = .closed ↔ IsBoundary max texts k ∨ InLength max texts k) ∧
      (e = .cut ↔ ¬ IsBoundary max texts k ∧ ¬ InLength max texts k) := by
  obtain ⟨n, hl, hb, hs, part, hr, he⟩ := exists_cut hw hn hk
  obtain ⟨whole, next⟩ := cut_between hl hk hb hs
  refine ⟨n, hl, _, whole, hr.ends he, ?_, ?_⟩
  · rw [← next]
    simp
  · rw [← not_or, ← next]
    simp

theorem writable_pair : ∀ text ∈ ["{}", "[]"], text ≠ "" ∧ text.utf8ByteSize ≤ 10 := by decide

theorem boundary_pair : ∀ n ≤ 2, boundary 10 ["{}", "[]"] n = 6 * n := by decide +kernel

theorem length_fill_pair : (fill 10 [] ["{}", "[]"]).length = 12 := boundary_pair 2 (Nat.le_refl 2)

theorem cut_texts_are_noticed_second :
    let texts := ["{}", "[]"]
    10 < 0x1_0000_0000 ∧ (∀ text ∈ texts, text ≠ "" ∧ text.utf8ByteSize ≤ 10) ∧
      11 ≤ (fill 10 [] texts).length ∧
      readAll (read 10) ((fill 10 [] texts).take 11) = ([.ok "{}", .error .cut], []) := by
  have hn : 10 < 0x1_0000_0000 := by decide
  have hk : 11 ≤ (fill 10 [] ["{}", "[]"]).length := by rw [length_fill_pair]; decide
  obtain ⟨n, -, e, whole, hr, -, ht⟩ := cut_texts_are_noticed hn writable_pair hk
  have h1 : n = 1 := by
    have h0 := whole 0 (by decide)
    have h1 := whole 1 (by decide)
    rw [boundary_pair _ (by decide)] at h0 h1
    omega
  have he : e = .cut := by
    refine ht.mpr ⟨?_, ?_⟩
    · rintro ⟨i, hi, h⟩
      rw [boundary_pair i hi] at h
      omega
    · rintro ⟨i, hi, h⟩
      rw [boundary_pair i (Nat.le_of_lt hi)] at h
      omega
  subst h1 he
  exact ⟨hn, writable_pair, hk, hr⟩

/-- A stream that is cut in the length of its second frame seems to end behind the first. -/
theorem cut_length_is_unnoticed :
    ¬ ∀ (max : Nat) (texts : List String) (k : Nat), max < 0x1_0000_0000 →
      (∀ text ∈ texts, text ≠ "" ∧ text.utf8ByteSize ≤ max) → k ≤ (fill max [] texts).length →
      ∃ n ≤ texts.length, ∃ e,
        (∀ i < texts.length, boundary max texts (i + 1) ≤ k ↔ i < n) ∧
        readAll (read max) ((fill max [] texts).take k) =
          ((texts.take n).map .ok ++ [.error e], []) ∧
        (e = .closed ↔ IsBoundary max texts k) ∧ (e = .cut ↔ ¬ IsBoundary max texts k) := by
  intro h
  have hk : 8 ≤ (fill 10 [] ["{}", "[]"]).length := by rw [length_fill_pair]; decide
  obtain ⟨m, hm, -, h2, part, hr, he⟩ := exists_cut writable_pair (by decide) hk
  have hm : m ≤ 2 := hm
  have h4 : 8 < 6 * m + 4 := by
    rcases m with _ | m
    · have h2 := h2 (by decide)
      rw [boundary_pair 1 (by decide)] at h2
      omega
    · omega
  rw [boundary_pair m hm, if_pos h4] at he
  obtain ⟨n, hn, e, -, hs, hc, -⟩ := h 10 ["{}", "[]"] 8 (by decide) writable_pair hk
  rw [hr.ends he, Prod.mk.injEq] at hs
  have hl := congrArg List.getLast? hs.1
  rw [List.getLast?_concat, List.getLast?_concat, Option.some.injEq, Except.error.injEq] at hl
  obtain ⟨i, hi, h⟩ := hc.mp hl.symm
  rw [boundary_pair i hi] at h
  omega

end Frame

end Diorama
