import Diorama.Proofs.Settings

namespace Diorama

theorem toDigits_injective {m n : Nat} (h : Nat.toDigits 10 m = Nat.toDigits 10 n) : m = n := by
  have hd : Draft.digits m = Draft.digits n := by rw [Draft.digits, h, Draft.digits]
  rw [← Draft.value_digits m, hd, Draft.value_digits]

namespace ByteSize

/-- Just those texts are read as sizes that say a number of units, and the number has to fit into a
word. The size is this number of units, or the largest that there is. A text says no two sizes, one
that says more of a unit is never read as less of it, and what is too large is never taken for
something small. -/
theorem sizes_are_read_exactly :
    (∀ s r, parse s = .ok r ↔ ∃ n u, Says s n u ∧ n < 0x1_0000_0000_0000_0000 ∧
      r.bytes = min (n * u.size) 0xffff_ffff_ffff_ffff) ∧
    (∀ (t : String) r, ofJson? (.str t) = some r ↔ parse t.toList = .ok r) ∧
    (∀ s m n u v, Says s m u → Says s n v → m = n ∧ u = v) ∧
    (∀ s t m n u, Says s m u → Says t n u → m ≤ n → n < 0x1_0000_0000_0000_0000 →
      ∃ p q, parse s = .ok p ∧ parse t = .ok q ∧ p.bytes ≤ q.bytes) ∧
    ∀ s n u r, Says s n u → parse s = .ok r →
      r.bytes = n * u.size ∨
        0x1_0000_0000_0000_0000 ≤ n * u.size ∧ r.bytes = 0xffff_ffff_ffff_ffff := by
  refine ⟨fun s r => parse_iff, fun t r => ?_, fun s m n u v => Says.unique, ?_, ?_⟩
  · rw [ofJson?_eq_some]
    simp
  · intro s t m n u hs ht hmn hn
    refine ⟨saturated (m * u.size), saturated (n * u.size), ?_, ?_, ?_⟩
    · exact parse_iff.mpr ⟨m, u, hs, Nat.lt_of_le_of_lt hmn hn, rfl⟩
    · exact parse_iff.mpr ⟨n, u, ht, hn, rfl⟩
    · have hl := Nat.mul_le_mul_right u.size hmn
      simp only [saturated]
      omega
  · intro s n u r hs hr
    obtain ⟨m, v, hv, _, hb⟩ := parse_iff.mp hr
    obtain ⟨rfl, rfl⟩ := hs.unique hv
    omega

/-- A text with blanks of all sorts, a sign and zeros in front, and one that says more bytes than a
word can count. With a unit that is doubled, or too large a number, there is nothing to be read. -/
theorem sizes_are_read_exactly_edges :
    let spaced : List Char := ['\u3000', '+', '0', '0', '7', ' ', '\u00a0', 'k', '\n']
    let large : List Char := "18014398509481984m".toList
    Says spaced 7 .kilo ∧ (∃ r, parse spaced = .ok r ∧ r.bytes = 7168) ∧
      Says large 18014398509481984 .mega ∧
      (∃ r, parse large = .ok r ∧ r.bytes = 18446744073709551615) ∧
      ∀ s ∈ ["", "K", "+", "-1", "4KK", "1 0K", "18446744073709551616"], ∀ r,
        ¬ parse s.toList = .ok r := by
  intro spaced large
  have hs : Says spaced 7 .kilo :=
    @Says.intro ['\u3000'] ['+', '0', '0', '7'] [' ', '\u00a0'] ['k'] ['\n'] 7 .kilo
      (List.all_eq_true.mp rfl)
      ⟨['0', '0', '7'], .inr rfl, by decide, List.all_eq_true.mp rfl, by decide⟩
      (List.all_eq_true.mp rfl) (.letter (by decide)) (List.all_eq_true.mp rfl)
  have hl : Says large 18014398509481984 .mega :=
    @Says.intro [] "18014398509481984".toList [] ['m'] [] 18014398509481984 .mega nofun
      ⟨_, .inl rfl, by decide, List.all_eq_true.mp rfl, by decide⟩ nofun (.letter (by decide)) nofun
  have read := sizes_are_read_exactly.1
  refine ⟨hs, ⟨⟨7168, by decide⟩, ?_, rfl⟩, hl, ⟨⟨18446744073709551615, by decide⟩, ?_, rfl⟩, ?_⟩
  · exact (read _ _).mpr ⟨7, .kilo, hs, by decide, by decide⟩
  · exact (read _ _).mpr ⟨18014398509481984, .mega, hl, by decide, by decide⟩
  · have none : ∀ s ∈ ["", "K", "+", "-1", "4KK", "1 0K", "18446744073709551616"],
        (parse s.toList).isOk = false := by decide
    intro s hm r hr
    have hn := none s hm
    rw [hr] at hn
    cases hn

variable {c : Char}

theorem render_whole {s : ByteSize} {m : Nat} (h : s.render = Nat.toDigits 10 m ++ [c])
    (hc : c = 'K' ∨ c = 'M') : ¬ 1024 ∣ m := by
  obtain ⟨u, hr, hu, hl⟩ := s.render_scale
  rw [hr] at h
  have hn : ¬ c.isDigit = true := by obtain rfl | rfl := hc <;> decide
  cases u with
  | byte =>
    -- Digits do not end with a letter.
    rw [Scale.sign, List.append_nil] at h
    have hd : c ∈ Nat.toDigits 10 (s.bytes / Scale.byte.size) := by simp [h]
    exact absurd (Draft.isDigit_toDigits hd) hn
  | kilo =>
    obtain ⟨hd, _⟩ := List.append_inj' h rfl
    obtain ⟨hk, hl⟩ := hl (by decide)
    rw [← toDigits_injective hd]
    intro hm
    have hg := hl .mega (by simp only [Scale.size] at hk hm ⊢; omega)
    exact absurd hg (by decide)
  | mega =>
    obtain ⟨hd, _⟩ := List.append_inj' h rfl
    obtain ⟨hk, hl⟩ := hl (by decide)
    rw [← toDigits_injective hd]
    intro hm
    have hg := hl .giga (by simp only [Scale.size] at hk hm ⊢; omega)
    exact absurd hg (by decide)
  | giga =>
    obtain ⟨_, hs⟩ := List.append_inj' h rfl
    obtain rfl := (List.cons.inj hs).1
    exact absurd hc (by decide)

/-- A size is read back from its text, and from its document, both as a value and as a text. It is
written in the largest unit that leaves no remainder, so that two sizes are never written alike, and
no number in front of a `K` or an `M` is a multiple of 1024. -/
theorem sizes_are_written_canonically (s : ByteSize) :
    parse s.text.toList = .ok s ∧ ofJson? s.toJson = some s ∧
    Draft.decode ofDraft s.toJson.render = .ok s ∧
    (∃ u : Scale, s.text.toList = Nat.toDigits 10 (s.bytes / u.size) ++ u.sign ∧
      (u = .byte ↔ s.bytes < 1024 ∨ ¬ 1024 ∣ s.bytes) ∧
      (u ≠ .byte → u.size ∣ s.bytes ∧ ∀ v : Scale, v.size ∣ s.bytes → v.size ≤ u.size)) ∧
    (∀ t : ByteSize, t.text = s.text → t = s) ∧
    ∀ m c, s.text.toList = Nat.toDigits 10 m ++ [c] → c = 'K' ∨ c = 'M' → ¬ 1024 ∣ m := by
  have ht : s.text.toList = s.render := String.toList_ofList
  rw [ht]
  refine ⟨parse_render s, ofJson?_text s, ?_, render_scale s, fun t h => ?_,
    fun m c => render_whole⟩
  · have hd : s.toJson.draft = .str (.ok s.text) := rfl
    rw [Draft.decode_render _ rfl, hd, ofDraft, ofJson?_text]
    rfl
  · have hp := t.parse_render
    have he : t.render = s.render := String.ofList_injective h
    rw [he, parse_render] at hp
    exact (Except.ok.inj hp).symm

/-- The largest multiple of a gigabyte comes back as it was. One more kilobyte is written in
kilobytes, and their number is odd. -/
theorem sizes_are_written_canonically_largest :
    let s : ByteSize := ⟨18446744072635809792, by decide⟩
    let t : ByteSize := ⟨18446744072635810816, by decide⟩
    s.text = "17179869183G" ∧ parse s.text.toList = .ok s ∧ t.text = "18014398508433409K" ∧
      parse t.text.toList = .ok t ∧ ¬ 1024 ∣ 18014398508433409 := by
  intro s t
  obtain ⟨hs, _⟩ := sizes_are_written_canonically s
  obtain ⟨ht, _, _, _, _, hk⟩ := sizes_are_written_canonically t
  have hr : t.text = "18014398508433409K" := by decide
  exact ⟨by decide, hs, hr, ht, hk _ 'K' (hr ▸ by decide) (.inl rfl)⟩

end ByteSize

end Diorama
