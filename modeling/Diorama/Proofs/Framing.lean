import Diorama.Wire.Frame

namespace Diorama

namespace Frame

theorem ofWord_word (n : Nat) :
    ofWord (.ofNat (n / 0x1000000)) (.ofNat (n / 0x10000)) (.ofNat (n / 0x100)) (.ofNat n) =
      n % 0x1_0000_0000 := by
  simp only [ofWord, UInt8.toNat_ofNat']
  omega

theorem toList_loop (bytes : ByteArray) (i : Nat) (acc : List UInt8) :
    ByteArray.toList.loop bytes i acc = acc.reverse ++ bytes.data.toList.drop i := by
  fun_induction ByteArray.toList.loop bytes i acc with
  | case1 i acc hi ih =>
    have hl : i < bytes.data.toList.length := hi
    have hg : bytes.get! i = bytes.data.toList[i] := getElem!_pos bytes.data i hi
    rw [ih, List.drop_eq_getElem_cons hl, hg, List.reverse_cons,
      List.append_assoc, List.singleton_append]
  | case2 i acc hi =>
    have hl : bytes.data.toList.length ≤ i := Nat.le_of_not_lt hi
    rw [List.drop_eq_nil_of_le hl, List.append_nil]

theorem utf8_eq (s : String) : utf8 s = s.toByteArray.data.toList := by
  rw [utf8, String.toUTF8_eq_toByteArray, ByteArray.toList, toList_loop]
  rfl

@[simp] theorem length_utf8 (s : String) : (utf8 s).length = s.utf8ByteSize := by
  rw [utf8_eq]
  rfl

theorem ofUtf8?_utf8 (s : String) : ofUtf8? (utf8 s) = some s := by
  have hb : (⟨(utf8 s).toArray⟩ : ByteArray) = s.toByteArray := by
    rw [utf8_eq, Array.toArray_toList]
  rw [ofUtf8?, hb, String.fromUTF8?, dif_pos s.isValidUTF8]
  rfl

def encode (text : String) : List UInt8 := word text.utf8ByteSize ++ utf8 text

theorem write_eq (max : Nat) (text : String) : write max text =
    if max < text.utf8ByteSize then .error (.tooLarge text.utf8ByteSize max)
    else .ok (encode text) := by
  simp only [write, length_utf8, encode]

theorem encode_eq {text : String} (hn : text.utf8ByteSize < 0x1_0000_0000) :
    ∃ a b c d, encode text = a :: b :: c :: d :: utf8 text ∧
      ofWord a b c d = text.utf8ByteSize :=
  ⟨_, _, _, _, rfl, (ofWord_word _).trans (Nat.mod_eq_of_lt hn)⟩

section
variable {max : Nat}

/-- The bytes decide what is read from them, whether more of them come or not. -/
def isDecided (max : Nat) : List UInt8 → Bool
  | a :: b :: c :: d :: rest =>
    let length := ofWord a b c d
    max < length || length = 0 || length ≤ rest.length
  | _ => false

theorem read_append {s : List UInt8} (hs : isDecided max s = true) (more : List UInt8) :
    read max (s ++ more) = ((read max s).1, (read max s).2 ++ more) := by
  obtain _ | ⟨a, _ | ⟨b, _ | ⟨c, _ | ⟨d, rest⟩⟩⟩⟩ := s
  any_goals cases hs
  simp only [isDecided, Bool.or_eq_true, decide_eq_true_eq] at hs
  simp only [List.cons_append, read]
  by_cases hm : max < ofWord a b c d
  · rw [if_pos hm, if_pos hm]
  by_cases h0 : ofWord a b c d = 0
  · rw [if_neg hm, if_neg hm, if_pos h0, if_pos h0]
  have hl : ofWord a b c d ≤ rest.length := by omega
  have hl' : ¬ (rest ++ more).length < ofWord a b c d := by
    rw [List.length_append]
    omega
  rw [if_neg hm, if_neg hm, if_neg h0, if_neg h0, if_neg hl', if_neg (Nat.not_lt.mpr hl),
    List.take_append_of_le_length hl, List.drop_append_of_le_length hl]
  cases ofUtf8? (rest.take (ofWord a b c d)) <;> rfl

variable {text : String} (hm : text.utf8ByteSize ≤ max) (hn : text.utf8ByteSize < 0x1_0000_0000)
include hn

theorem isDecided_encode : isDecided max (encode text) = true := by
  obtain ⟨a, b, c, d, he, hl⟩ := encode_eq hn
  rw [he, isDecided, hl, length_utf8]
  simp

include hm

theorem read_encode (h0 : text ≠ "") (rest : List UInt8) :
    read max (encode text ++ rest) = (.ok text, rest) := by
  obtain ⟨a, b, c, d, he, hl⟩ := encode_eq hn
  have hz : text.utf8ByteSize ≠ 0 := fun hz => h0 (String.utf8ByteSize_eq_zero_iff.mp hz)
  have hr : read max (encode text) = (.ok text, []) := by
    simp only [he, read, hl, length_utf8]
    rw [if_neg (Nat.not_lt.mpr hm), if_neg hz, if_neg (Nat.lt_irrefl _)]
    rw [← length_utf8, List.take_length, List.drop_length, ofUtf8?_utf8]
  rw [read_append (isDecided_encode hn), hr, List.nil_append]

end

theorem read_empty (max : Nat) (rest : List UInt8) :
    read max (encode "" ++ rest) = (.error .closed, rest) := by
  have he : encode "" = [0, 0, 0, 0] := by decide +kernel
  rw [he]
  simp [read, ofWord]

theorem read_nil (max : Nat) : read max [] = (.error .closed, []) := rfl

section
variable {α : Type}

/-- Whether a reader goes on after a result. -/
def goesOn : Except FrameError α → Bool
  | .ok _ | .error (.unreadable _) => true
  | .error _ => false

/-- A step that goes on has taken a frame with at least one byte of text. -/
def Advances (step : List UInt8 → Except FrameError α × List UInt8) : Prop :=
  ∀ s, goesOn (step s).1 = true → (step s).2.length + 5 ≤ s.length

theorem read_advances (max : Nat) : Advances (read max) := by
  intro s hs
  obtain _ | ⟨a, _ | ⟨b, _ | ⟨c, _ | ⟨d, rest⟩⟩⟩⟩ := s
  any_goals cases hs
  simp only [read] at hs ⊢
  by_cases hm : max < ofWord a b c d
  · rw [if_pos hm] at hs
    cases hs
  by_cases h0 : ofWord a b c d = 0
  · rw [if_neg hm, if_pos h0] at hs
    cases hs
  by_cases hl : rest.length < ofWord a b c d
  · rw [if_neg hm, if_neg h0, if_pos hl] at hs
    cases hs
  rw [if_neg hm, if_neg h0, if_neg hl]
  have hd : (rest.drop (ofWord a b c d)).length + 5 ≤ (a :: b :: c :: d :: rest).length := by
    simp only [List.length_drop, List.length_cons]
    omega
  cases ofUtf8? (rest.take (ofWord a b c d)) <;> exact hd

theorem readMessage_advances (parse : List Char → Except Fault α) (max : Nat) :
    Advances (readMessage parse max) := by
  intro s hs
  have ha := read_advances max s
  rw [readMessage] at hs ⊢
  rcases hr : read max s with ⟨e | text, rest⟩ <;> rw [hr] at ha hs
  · cases e <;> first | exact ha rfl | cases hs
  · exact ha rfl

variable {step : List UInt8 → Except FrameError α × List UInt8}

theorem go_succ (fuel : Nat) (s : List UInt8) : readAll.go step (fuel + 1) s =
    if goesOn (step s).1 then
      ((step s).1 :: (readAll.go step fuel (step s).2).1, (readAll.go step fuel (step s).2).2)
    else ([(step s).1], (step s).2) := by
  rw [readAll.go]
  rcases step s with ⟨⟨_⟩ | a, rest⟩
  · rename_i e
    cases e <;> rfl
  · rfl

theorem go_enough (ha : Advances step) {m n : Nat} {s : List UInt8} (hm : s.length / 5 < m)
    (hn : s.length / 5 < n) : readAll.go step m s = readAll.go step n s := by
  induction m generalizing n s with
  | zero => exact absurd hm (Nat.not_lt_zero _)
  | succ m ih =>
    obtain _ | n := n
    · exact absurd hn (Nat.not_lt_zero _)
    · rw [go_succ, go_succ]
      by_cases hs : goesOn (step s).1 = true
      · have hl := ha s hs
        rw [if_pos hs, if_pos hs, ih (n := n) (by omega) (by omega)]
      · rw [if_neg hs, if_neg hs]

theorem readAll_goesOn (ha : Advances step) {s rest : List UInt8} {r : Except FrameError α}
    (hs : step s = (r, rest)) (hr : goesOn r = true) :
    readAll step s = (r :: (readAll step rest).1, (readAll step rest).2) := by
  have hl : rest.length + 5 ≤ s.length := by
    have hl := ha s
    rw [hs] at hl
    exact hl hr
  have he : readAll.go step (s.length / 5) rest = readAll step rest :=
    go_enough ha (by omega) (by omega)
  rw [readAll, go_succ, hs, if_pos hr, he]

theorem readAll_ends {s rest : List UInt8} {r : Except FrameError α} (hs : step s = (r, rest))
    (hr : goesOn r = false) : readAll step s = ([r], rest) := by
  rw [readAll, go_succ, hs, hr]
  rfl

end

/-- What stands in a buffer when texts have been written to it one after another. A text that is
refused leaves it as it is. -/
def fill (max : Nat) (buffer : List UInt8) (texts : List String) : List UInt8 :=
  texts.foldl (fun buffer text =>
    match write max text with
    | .ok bytes => buffer ++ bytes
    | .error _ => buffer) buffer

theorem write_isOk {max : Nat} {text : String} :
    (write max text).isOk = true ↔ text.utf8ByteSize ≤ max := by
  rw [write_eq]
  split
  · rename_i h
    exact ⟨nofun, fun h' => absurd h (Nat.not_lt.mpr h')⟩
  · rename_i h
    exact ⟨fun _ => Nat.not_lt.mp h, fun _ => rfl⟩

theorem fill_eq (max : Nat) (buffer : List UInt8) (texts : List String) :
    fill max buffer texts =
      buffer ++ (texts.filter fun text => text.utf8ByteSize ≤ max).flatMap encode := by
  induction texts generalizing buffer with
  | nil => exact (List.append_nil buffer).symm
  | cons text texts ih =>
    rw [fill, List.foldl_cons, ← fill, ih, write_eq]
    by_cases h : max < text.utf8ByteSize
    · rw [if_pos h, List.filter_cons_of_neg (by simpa using h)]
    · rw [if_neg h, List.filter_cons_of_pos (by simpa using h), List.flatMap_cons,
        List.append_assoc]

theorem fill_cons {max : Nat} {text : String} (hm : text.utf8ByteSize ≤ max) (texts : List String) :
    fill max [] (text :: texts) = encode text ++ fill max [] texts := by
  rw [fill_eq, fill_eq, List.filter_cons_of_pos (by simpa using hm), List.flatMap_cons,
    List.nil_append, List.nil_append]

theorem fill_refused {max : Nat} {text : String} (hm : max < text.utf8ByteSize)
    (buffer : List UInt8) (texts : List String) :
    fill max buffer (text :: texts) = fill max buffer texts := by
  rw [fill_eq, fill_eq, List.filter_cons_of_neg (by simpa using hm)]

/-- Whatever is written as frames to one buffer, and is shorter than a word of four bytes can tell,
is read back from it in order up to the first empty text, where the stream ends. -/
theorem written_frames_read_back {max : Nat} {frames : List String}
    (hw : ∀ frame ∈ frames, (write max frame).isOk = true)
    (hn : ∀ frame ∈ frames, frame.utf8ByteSize < 0x1_0000_0000) :
    let texts := frames.takeWhile (· ≠ "")
    readAll (read max) (fill max [] frames) =
      (texts.map .ok ++ [.error .closed], fill max [] (frames.drop (texts.length + 1))) := by
  induction frames with
  | nil => exact readAll_ends (read_nil max) rfl
  | cons text frames ih =>
    obtain ⟨hw, hws⟩ := List.forall_mem_cons.mp hw
    obtain ⟨hn, hns⟩ := List.forall_mem_cons.mp hn
    have hm := write_isOk.mp hw
    rw [fill_cons hm]
    by_cases h0 : text = ""
    · subst h0
      exact readAll_ends (read_empty max _) rfl
    · rw [readAll_goesOn (read_advances max) (read_encode hm hn h0 _) rfl, ih hws hns,
        List.takeWhile_cons_of_pos (by simpa using h0)]
      rfl

theorem written_frames_read_back_with_gap :
    let frames := ["{}", "[1]", "", "{}"]
    (∀ frame ∈ frames, (write 3 frame).isOk = true) ∧
      (∀ frame ∈ frames, frame.utf8ByteSize < 0x1_0000_0000) ∧
      readAll (read 3) (fill 3 [] frames) =
        ([.ok "{}", .ok "[1]", .error .closed], fill 3 [] ["{}"]) := by
  have hw : ∀ frame ∈ ["{}", "[1]", "", "{}"], (write 3 frame).isOk = true :=
    fun frame hf => write_isOk.mpr ((by decide : ∀ frame ∈ ["{}", "[1]", "", "{}"],
      frame.utf8ByteSize ≤ 3) frame hf)
  have hn : ∀ frame ∈ ["{}", "[1]", "", "{}"], frame.utf8ByteSize < 0x1_0000_0000 := by decide
  exact ⟨hw, hn, written_frames_read_back hw hn⟩

/-- The frame of an empty text is written, but nothing is read from it. -/
theorem empty_frame_is_lost :
    ¬ ∀ (max : Nat) (frames : List String), (∀ frame ∈ frames, (write max frame).isOk = true) →
      (readAll (read max) (fill max [] frames)).1 = frames.map .ok ++ [.error .closed] := by
  intro h
  have hr : (readAll (read 10) (fill 10 [] [""])).1 = [.error .closed] := by
    rw [fill_cons (by decide), readAll_ends (read_empty 10 _) rfl]
  have h := h 10 [""] fun frame hf => by
    rw [List.mem_singleton.mp hf]
    exact write_isOk.mpr (by decide)
  rw [hr] at h
  cases h

/-- The frames that are read of a stream before the reading fails. -/
def frames (max : Nat) (s : List UInt8) : List String :=
  (readAll (read max) s).1.filterMap Except.toOption

section
variable {max : Nat} {s rest : List UInt8}

theorem read_error {e : FrameError} (hr : read max s = (.error e, rest)) :
    goesOn (.error e : Except FrameError String) = false := by
  cases e with
  | unreadable fault =>
    obtain _ | ⟨a, _ | ⟨b, _ | ⟨c, _ | ⟨d, t⟩⟩⟩⟩ := s
    any_goals cases hr
    simp only [read] at hr
    split at hr
    · cases hr
    · split at hr
      · cases hr
      · split at hr
        · cases hr
        · split at hr <;> cases hr
  | _ => rfl

theorem frames_ok {text : String} (hr : read max s = (.ok text, rest)) :
    frames max s = text :: frames max rest := by
  rw [frames, readAll_goesOn (read_advances max) hr rfl]
  rfl

theorem frames_error {e : FrameError} (hr : read max s = (.error e, rest)) : frames max s = [] := by
  rw [frames, readAll_ends hr (read_error hr)]
  rfl

/-- Frames that are taken off a stream one after another, and what they leave of it. -/
inductive Reading (max : Nat) : List UInt8 → List String → List UInt8 → Prop
  | done (s : List UInt8) : Reading max s [] s
  | next {s t rest : List UInt8} {text : String} {texts : List String}
      (hr : read max s = (.ok text, t)) (ht : Reading max t texts rest) :
      Reading max s (text :: texts) rest

theorem Reading.ends {texts : List String} {e : FrameError} {left : List UInt8}
    (h : Reading max s texts rest) (he : read max rest = (.error e, left)) :
    readAll (read max) s = (texts.map .ok ++ [.error e], left) := by
  induction h with
  | done s => exact readAll_ends he (read_error he)
  | next hr _ ih =>
    rw [readAll_goesOn (read_advances max) hr rfl, ih he]
    rfl

theorem exists_reading (max : Nat) (s : List UInt8) :
    ∃ e rest left, Reading max s (frames max s) rest ∧ read max rest = (.error e, left) := by
  induction hn : s.length using Nat.strongRecOn generalizing s with
  | ind n ih =>
    rcases hr : read max s with ⟨e | text, t⟩
    · rw [frames_error hr]
      exact ⟨e, s, t, .done s, hr⟩
    · have hl : t.length + 5 ≤ s.length := by
        have hl := read_advances max s
        rw [hr] at hl
        exact hl rfl
      obtain ⟨e, rest, left, ht, he⟩ := ih t.length (by omega) t rfl
      rw [frames_ok hr]
      exact ⟨e, rest, left, .next hr ht, he⟩

theorem readAll_frames (max : Nat) (s : List UInt8) :
    ∃ e, (readAll (read max) s).1 = (frames max s).map .ok ++ [.error e] := by
  obtain ⟨e, rest, left, hs, he⟩ := exists_reading max s
  exact ⟨e, congrArg Prod.fst (hs.ends he)⟩

theorem read_undecided (hs : isDecided max s = false) : ∃ e t, read max s = (.error e, t) := by
  obtain _ | ⟨a, _ | ⟨b, _ | ⟨c, _ | ⟨d, t⟩⟩⟩⟩ := s
  any_goals exact ⟨_, _, rfl⟩
  simp only [isDecided, Bool.or_eq_false_iff, decide_eq_false_iff_not] at hs
  obtain ⟨⟨hm, h0⟩, hl⟩ := hs
  simp only [read]
  rw [if_neg hm, if_neg h0, if_pos (Nat.lt_of_not_le hl)]
  exact ⟨_, _, rfl⟩

end

def fitting (max : Nat) (texts : List String) : List String :=
  texts.takeWhile fun text => text.utf8ByteSize ≤ max

section
variable {max : Nat} {texts : List String}

theorem fitting_cons (max : Nat) (text : String) (texts : List String) :
    fitting max (text :: texts) =
      if text.utf8ByteSize ≤ max then text :: fitting max texts else [] := by
  by_cases h : text.utf8ByteSize ≤ max <;> simp [fitting, h]

theorem mem_fitting {text : String} (h : text ∈ fitting max texts) : text.utf8ByteSize ≤ max :=
  of_decide_eq_true (List.all_eq_true.mp List.all_takeWhile text h)

theorem fitting_append (h : ∀ text ∈ texts, text.utf8ByteSize ≤ max) (more : List String) :
    fitting max (texts ++ more) = texts ++ fitting max more :=
  List.takeWhile_append_of_pos fun text hm => decide_eq_true (h text hm)

theorem fitting_eq_self (h : ∀ text ∈ texts, text.utf8ByteSize ≤ max) :
    fitting max texts = texts := by
  have ha := fitting_append h []
  rwa [List.append_nil, show fitting max [] = [] from rfl, List.append_nil] at ha

theorem fitting_append_long (h : ∃ text ∈ texts, max < text.utf8ByteSize) (more : List String) :
    fitting max (texts ++ more) = fitting max texts := by
  induction texts with
  | nil => exact absurd h nofun
  | cons text texts ih =>
    obtain ⟨long, hx, hl⟩ := h
    rw [List.cons_append, fitting_cons, fitting_cons]
    by_cases hm : text.utf8ByteSize ≤ max
    · have ht : long ∈ texts := (List.mem_cons.mp hx).resolve_left fun he =>
        Nat.not_lt.mpr hm (he ▸ hl)
      rw [if_pos hm, if_pos hm, ih ⟨long, ht, hl⟩]
    · rw [if_neg hm, if_neg hm]

end

end Frame

end Diorama
