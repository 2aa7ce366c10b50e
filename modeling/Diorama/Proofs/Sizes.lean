import Diorama.ByteSize
import Diorama.Proofs.JsonText

namespace Diorama

theorem trimStart_parts (s : List Char) :
    ∃ front, s = front ++ trimStart s ∧ ∀ c ∈ front, isBlank c = true :=
  ⟨s.takeWhile isBlank, List.takeWhile_append_dropWhile.symm,
    List.all_eq_true.mp List.all_takeWhile⟩

theorem trim_parts (s : List Char) :
    ∃ front back, s = front ++ trim s ++ back ∧ (∀ c ∈ front, isBlank c = true) ∧
      ∀ c ∈ back, isBlank c = true := by
  obtain ⟨front, hs, hf⟩ := trimStart_parts s
  obtain ⟨back, hr, hb⟩ := trimStart_parts (trimStart s).reverse
  refine ⟨front, back.reverse, ?_, hf, fun c hc => hb c (List.mem_reverse.mp hc)⟩
  have he := congrArg List.reverse hr
  rw [List.reverse_reverse, List.reverse_append] at he
  rw [List.append_assoc, trim, trimEnd, ← he]
  exact hs

theorem trimStart_append {front core : List Char} (hf : ∀ c ∈ front, isBlank c = true)
    (hc : ∀ c, core.head? = some c → isBlank c = false) : trimStart (front ++ core) = core := by
  rw [trimStart, List.dropWhile_append_of_pos hf]
  cases core with
  | nil => rfl
  | cons c core => rw [List.dropWhile_cons, hc c rfl, if_neg Bool.false_ne_true]

theorem trim_append {front core back : List Char} (hf : ∀ c ∈ front, isBlank c = true)
    (hb : ∀ c ∈ back, isBlank c = true) (hn : core ≠ [])
    (hc : ∀ c, core.head? = some c → isBlank c = false)
    (hl : ∀ c, core.getLast? = some c → isBlank c = false) :
    trim (front ++ core ++ back) = core := by
  have hs : trimStart (front ++ core ++ back) = core ++ back := by
    obtain ⟨c, core, rfl⟩ := List.exists_cons_of_ne_nil hn
    rw [List.append_assoc]
    exact trimStart_append hf hc
  have hr : trimStart (back.reverse ++ core.reverse) = core.reverse := by
    apply trimStart_append
    · exact fun c hx => hb c (List.mem_reverse.mp hx)
    · rw [List.head?_reverse]
      exact hl
  rw [trim, trimEnd, hs, List.reverse_append, hr, List.reverse_reverse]

theorem isBlank_digit {c : Char} (hc : c.isDigit = true) : isBlank c = false := by
  have hn : 48 ≤ c.toNat ∧ c.toNat ≤ 57 := by simpa [Char.isDigit, UInt32.le_iff_toNat_le] using hc
  simp only [isBlank, Bool.or_eq_false_iff, Bool.and_eq_false_iff, decide_eq_false_iff_not,
    beq_eq_false_iff_ne]
  omega

def decimal (ds : List Char) : Nat := Numeral.value 0 (ds.map fun c => c.toNat - 48)

/-- The text is a number in decimal digits, with or without a plus sign. -/
def Counts (s : List Char) (n : Nat) : Prop :=
  ∃ ds, (s = ds ∨ s = '+' :: ds) ∧ ds ≠ [] ∧ (∀ c ∈ ds, c.isDigit = true) ∧ decimal ds = n

theorem digits_eq {n : Nat} {cs : List Char} (hd : ∀ c ∈ cs, c.isDigit = true)
    (hn : Numeral.value n (cs.map fun c => c.toNat - 48) < 0x1_0000_0000_0000_0000) :
    digits n cs = .ok (Numeral.value n (cs.map fun c => c.toNat - 48)) := by
  induction cs generalizing n with
  | nil => rfl
  | cons c cs ih =>
    obtain ⟨hc, hd⟩ := List.forall_mem_cons.mp hd
    have hv : Numeral.value n ((c :: cs).map fun c => c.toNat - 48) =
        Numeral.value (n * 10 + (c.toNat - 48)) (cs.map fun c => c.toNat - 48) := rfl
    rw [hv] at hn ⊢
    rw [digits, if_pos hc, if_pos (Nat.lt_of_le_of_lt (Numeral.le_value ..) hn), ih hd hn]

theorem digits_ok {n m : Nat} {cs : List Char} (hn : n < 0x1_0000_0000_0000_0000)
    (h : digits n cs = .ok m) : (∀ c ∈ cs, c.isDigit = true) ∧
      Numeral.value n (cs.map fun c => c.toNat - 48) = m ∧ m < 0x1_0000_0000_0000_0000 := by
  induction cs generalizing n with
  | nil =>
    obtain rfl := Except.ok.inj h
    exact ⟨List.forall_mem_nil _, rfl, hn⟩
  | cons c cs ih =>
    rw [digits] at h
    split at h
    · rename_i hc
      simp only at h
      split at h
      · rename_i hm
        obtain ⟨hd, hv, hl⟩ := ih hm h
        exact ⟨List.forall_mem_cons.mpr ⟨hc, hd⟩, hv, hl⟩
      · cases h
    · cases h

theorem digits_iff {cs : List Char} {n : Nat} : digits 0 cs = .ok n ↔
    (∀ c ∈ cs, c.isDigit = true) ∧ decimal cs = n ∧ n < 0x1_0000_0000_0000_0000 := by
  refine ⟨digits_ok (by decide), ?_⟩
  rintro ⟨hd, rfl, hn⟩
  exact digits_eq hd hn

theorem not_isDigit_plus : ¬ '+'.isDigit = true := by decide

theorem natural_iff {cs : List Char} {n : Nat} :
    natural cs = .ok n ↔ Counts cs n ∧ n < 0x1_0000_0000_0000_0000 := by
  constructor
  · intro h
    rw [natural.eq_def] at h
    split at h
    · cases h
    · cases h
    · rename_i cs hn
      obtain ⟨hd, hv, hl⟩ := digits_iff.mp h
      exact ⟨⟨cs, .inr rfl, hn, hd, hv⟩, hl⟩
    · rename_i hn _ _
      obtain ⟨hd, hv, hl⟩ := digits_iff.mp h
      exact ⟨⟨cs, .inl rfl, hn, hd, hv⟩, hl⟩
  · rintro ⟨⟨ds, he, hn, hd, hv⟩, hl⟩
    have hs : digits 0 ds = .ok n := digits_iff.mpr ⟨hd, hv, hl⟩
    obtain ⟨d, ds, rfl⟩ := List.exists_cons_of_ne_nil hn
    obtain rfl | rfl := he
    · rw [natural.eq_def]
      split
      · contradiction
      · rename_i h
        exact absurd (hd '+' (h ▸ .head _)) not_isDigit_plus
      · rename_i h
        exact absurd (hd '+' (h ▸ .head _)) not_isDigit_plus
      · exact hs
    · exact hs

theorem Counts.unique {s : List Char} {m n : Nat} (hm : Counts s m) (hn : Counts s n) : m = n := by
  obtain ⟨ds, he, _, hd, rfl⟩ := hm
  obtain ⟨es, hf, _, hg, rfl⟩ := hn
  obtain rfl | rfl := he
  · obtain rfl | rfl := hf
    · rfl
    · exact absurd (hd '+' (.head _)) not_isDigit_plus
  · obtain rfl | hf := hf
    · exact absurd (hg '+' (.head _)) not_isDigit_plus
    · rw [(List.cons.inj hf).2]

theorem Counts.ends {s : List Char} {n : Nat} (h : Counts s n) : s ≠ [] ∧
    (∀ c, s.head? = some c → isBlank c = false) ∧ ∀ c, s.getLast? = some c → c.isDigit = true := by
  obtain ⟨ds, he, hn, hd, _⟩ := h
  have hl : ∀ c, ds.getLast? = some c → c.isDigit = true := fun c hc =>
    hd c (List.mem_of_getLast? hc)
  obtain rfl | rfl := he
  · exact ⟨hn, fun c hc => isBlank_digit (hd c (List.mem_of_head? hc)), hl⟩
  · refine ⟨List.cons_ne_nil _ _, fun c hc => ?_, ?_⟩
    · obtain rfl := Option.some.inj hc
      decide
    · rwa [List.getLast?_cons_of_ne_nil hn]

theorem counts_toDigits (n : Nat) : Counts (Nat.toDigits 10 n) n :=
  ⟨_, .inl rfl, Nat.toDigits_ne_nil, fun _ => Draft.isDigit_toDigits, Draft.value_digits n⟩

namespace ByteSize

inductive Scale where
  | byte
  | kilo
  | mega
  | giga
  deriving DecidableEq

namespace Scale

def size : Scale → Nat
  | byte => 1
  | kilo => 1024
  | mega => 1048576
  | giga => 1073741824

def letters : Scale → List Char
  | byte => []
  | kilo => ['K', 'k']
  | mega => ['M', 'm']
  | giga => ['G', 'g']

/-- What can stand behind a number that counts in this unit. -/
inductive Marks : Scale → List Char → Prop
  | none : Marks byte []
  | letter {u : Scale} {c : Char} (hc : c ∈ u.letters) : Marks u [c]

end Scale

/-- The text says so many of these units: a number, a unit that may stand apart from it, and blanks
around them. -/
inductive Says : List Char → Nat → Scale → Prop
  | intro {front number gap mark back : List Char} {n : Nat} {u : Scale}
      (hf : ∀ c ∈ front, isBlank c = true) (hn : Counts number n)
      (hg : ∀ c ∈ gap, isBlank c = true) (hm : u.Marks mark) (hb : ∀ c ∈ back, isBlank c = true) :
      Says (front ++ (number ++ gap ++ mark) ++ back) n u

variable {s : List Char} {n : Nat} {u : Scale} {c : Char}

theorem unit?_digit (hc : c.isDigit = true) : unit? c = none := by
  rw [unit?.eq_def]
  split <;> first | rfl | exact absurd hc (by decide)

theorem unit?_letter (hc : c ∈ u.letters) : unit? c = some u.size ∧ isBlank c = false := by
  cases u <;> simp only [Scale.letters, List.mem_cons, List.not_mem_nil, or_false] at hc
  all_goals
    obtain rfl | rfl := hc <;> exact ⟨rfl, by decide⟩

theorem unit?_eq_some {k : Nat} (h : unit? c = some k) :
    ∃ u : Scale, c ∈ u.letters ∧ k = u.size := by
  rw [unit?.eq_def] at h
  split at h
  · exact ⟨.kilo, by decide, (Option.some.inj h).symm⟩
  · exact ⟨.kilo, by decide, (Option.some.inj h).symm⟩
  · exact ⟨.mega, by decide, (Option.some.inj h).symm⟩
  · exact ⟨.mega, by decide, (Option.some.inj h).symm⟩
  · exact ⟨.giga, by decide, (Option.some.inj h).symm⟩
  · exact ⟨.giga, by decide, (Option.some.inj h).symm⟩
  · cases h

theorem splitUnit_parts (s : List Char) :
    ∃ (u : Scale) (mark : List Char), u.Marks mark ∧ s = (splitUnit s).1 ++ mark ∧
      (splitUnit s).2 = u.size := by
  rw [splitUnit]
  split
  · rename_i k hk
    obtain ⟨c, hc, hk⟩ := Option.bind_eq_some_iff.mp hk
    obtain ⟨u, hu, rfl⟩ := unit?_eq_some hk
    obtain ⟨number, rfl⟩ := List.getLast?_eq_some_iff.mp hc
    exact ⟨u, [c], .letter hu, by rw [List.dropLast_concat], rfl⟩
  · exact ⟨.byte, [], .none, (List.append_nil s).symm, rfl⟩

theorem splitUnit_number (hs : Counts s n) : splitUnit s = (s, 1) := by
  have hn : s.getLast?.bind unit? = none := by
    rw [Option.bind_eq_none_iff]
    exact fun c hc => unit?_digit (hs.ends.2.2 c hc)
  rw [splitUnit, hn]

theorem splitUnit_unit {k : Nat} (hc : unit? c = some k) : splitUnit (s ++ [c]) = (s, k) := by
  rw [splitUnit, List.getLast?_concat, Option.bind_some, hc, List.dropLast_concat]

theorem Says.split (h : Says s n u) :
    trim s ≠ [] ∧ (splitUnit (trim s)).2 = u.size ∧ Counts (trim (splitUnit (trim s)).1) n := by
  obtain ⟨hf, hn, hg, hm, hb⟩ := h
  rename_i front number gap mark back
  obtain ⟨hne, hh, hl⟩ := hn.ends
  have hl' : ∀ c, number.getLast? = some c → isBlank c = false :=
    fun c hc => isBlank_digit (hl c hc)
  cases hm with
  | none =>
    -- With no unit behind it the gap belongs to the blanks at the end.
    have ht : trim (front ++ (number ++ gap ++ []) ++ back) = number := by
      rw [List.append_nil, ← List.append_assoc front, List.append_assoc _ gap]
      refine trim_append hf (fun c hc => ?_) hne hh hl'
      exact (List.mem_append.mp hc).elim (hg c) (hb c)
    rw [ht, splitUnit_number hn]
    have hs := @trim_append [] number [] (List.forall_mem_nil _) (List.forall_mem_nil _) hne hh hl'
    rw [List.append_nil, List.nil_append] at hs
    exact ⟨hne, rfl, hs.symm ▸ hn⟩
  | @letter u c hc =>
    obtain ⟨hu, hc⟩ := unit?_letter hc
    have ht : trim (front ++ (number ++ gap ++ [c]) ++ back) = number ++ gap ++ [c] := by
      apply trim_append hf hb
      · simp
      · obtain ⟨d, number, rfl⟩ := List.exists_cons_of_ne_nil hne
        exact hh
      · rw [List.getLast?_concat]
        rintro d hd
        exact Option.some.inj hd ▸ hc
    rw [ht, splitUnit_unit hu]
    have hs := @trim_append [] number gap (List.forall_mem_nil _) hg hne hh hl'
    rw [List.nil_append] at hs
    exact ⟨by simp, rfl, hs.symm ▸ hn⟩

theorem says_of_split (hn : Counts (trim (splitUnit (trim s)).1) n) :
    ∃ u : Scale, Says s n u ∧ (splitUnit (trim s)).2 = u.size := by
  obtain ⟨u, mark, hm, ht, hu⟩ := splitUnit_parts (trim s)
  obtain ⟨front, back, hs, hf, hb⟩ := trim_parts s
  obtain ⟨front', gap, hp, hf', hg⟩ := trim_parts (splitUnit (trim s)).1
  generalize trim (splitUnit (trim s)).1 = number at hn hp
  rw [hp] at ht
  refine ⟨u, ?_, hu⟩
  have he : s = (front ++ front') ++ (number ++ gap ++ mark) ++ back := by
    rw [hs, ht]
    simp only [List.append_assoc]
  rw [he]
  exact .intro (fun c hc => (List.mem_append.mp hc).elim (hf c) (hf' c)) hn hg hm hb

theorem parse_ok {r : ByteSize} : parse s = .ok r ↔ trim s ≠ [] ∧
    ∃ n, natural (trim (splitUnit (trim s)).1) = .ok n ∧
      r = saturated (n * (splitUnit (trim s)).2) := by
  rw [parse]
  cases trim s with
  | nil => simp
  | cons c cs =>
    simp only
    cases natural (trim (splitUnit (c :: cs)).1) with
    | error e => simp
    | ok n => simp [eq_comm]

theorem Scale.size_injective {u v : Scale} (h : u.size = v.size) : u = v := by
  cases u <;> cases v <;> first | rfl | exact absurd h (by decide)

theorem Says.unique {m : Nat} {v : Scale} (h : Says s n u) (h' : Says s m v) : n = m ∧ u = v := by
  obtain ⟨_, hu, hn⟩ := h.split
  obtain ⟨_, hv, hm⟩ := h'.split
  exact ⟨hn.unique hm, Scale.size_injective (hu.symm.trans hv)⟩

theorem saturated_eq {r : ByteSize} {n : Nat} :
    r = saturated n ↔ r.bytes = min n 0xffff_ffff_ffff_ffff := by
  obtain ⟨k, hk⟩ := r
  simp only [saturated, mk.injEq]

theorem parse_iff {r : ByteSize} : parse s = .ok r ↔
    ∃ n u, Says s n u ∧ n < 0x1_0000_0000_0000_0000 ∧
      r.bytes = min (n * u.size) 0xffff_ffff_ffff_ffff := by
  rw [parse_ok]
  constructor
  · rintro ⟨_, n, hn, hr⟩
    obtain ⟨hn, hl⟩ := natural_iff.mp hn
    obtain ⟨u, hs, hu⟩ := says_of_split hn
    exact ⟨n, u, hs, hl, saturated_eq.mp (hu ▸ hr)⟩
  · rintro ⟨n, u, hs, hl, hr⟩
    obtain ⟨ht, hu, hn⟩ := hs.split
    exact ⟨ht, n, natural_iff.mpr ⟨hn, hl⟩, hu ▸ saturated_eq.mpr hr⟩

def Scale.sign : Scale → List Char
  | byte => []
  | kilo => ['K']
  | mega => ['M']
  | giga => ['G']

/-- A size is written in the largest unit that leaves no remainder, and in bytes if even a kilobyte
leaves one or is too large. -/
theorem render_scale (s : ByteSize) : ∃ u : Scale,
    s.render = Nat.toDigits 10 (s.bytes / u.size) ++ u.sign ∧
      (u = .byte ↔ s.bytes < 1024 ∨ ¬ 1024 ∣ s.bytes) ∧
      (u ≠ .byte → u.size ∣ s.bytes ∧ ∀ v : Scale, v.size ∣ s.bytes → v.size ≤ u.size) := by
  have hk : kilobyte = 1024 := rfl
  have hm : megabyte = 1048576 := rfl
  have hg : gigabyte = 1073741824 := rfl
  simp only [render, hk, hm, hg]
  split
  · rename_i h
    refine ⟨.giga, rfl, ?_, fun _ => ⟨Nat.dvd_of_mod_eq_zero h.2, fun v _ => ?_⟩⟩
    · simp only [reduceCtorEq, false_iff]
      omega
    · cases v <;> decide
  · split
    · rename_i h
      refine ⟨.mega, rfl, ?_, fun _ => ⟨Nat.dvd_of_mod_eq_zero h.2, fun v hv => ?_⟩⟩
      · simp only [reduceCtorEq, false_iff]
        omega
      · cases v <;> simp only [Scale.size] at hv ⊢ <;> omega
    · split
      · rename_i h
        refine ⟨.kilo, rfl, ?_, fun _ => ⟨Nat.dvd_of_mod_eq_zero h.2, fun v hv => ?_⟩⟩
        · simp only [reduceCtorEq, false_iff]
          omega
        · cases v <;> simp only [Scale.size] at hv ⊢ <;> omega
      · refine ⟨.byte, ?_, ?_, fun h => absurd rfl h⟩
        · rw [Scale.size, Nat.div_one, Scale.sign, List.append_nil]
        · simp only [true_iff]
          omega

theorem says_toDigits (n : Nat) (u : Scale) : Says (Nat.toDigits 10 n ++ u.sign) n u := by
  have hm : u.Marks u.sign := by
    cases u with
    | byte => exact .none
    | _ => exact .letter (by decide)
  have hb : ∀ c ∈ ([] : List Char), isBlank c = true := List.forall_mem_nil _
  have hs := Says.intro hb (counts_toDigits n) hb hm hb
  rwa [List.append_nil, List.append_nil, List.nil_append] at hs

theorem parse_render (s : ByteSize) : parse s.render = .ok s := by
  obtain ⟨u, hr, _, hu⟩ := s.render_scale
  have hd : u.size ∣ s.bytes := by
    by_cases h : u = .byte
    · exact h ▸ Nat.one_dvd _
    · exact (hu h).1
  have hf := s.fits
  rw [hr, parse_iff]
  refine ⟨s.bytes / u.size, u, says_toDigits _ u, Nat.lt_of_le_of_lt (Nat.div_le_self ..) hf, ?_⟩
  rw [Nat.div_mul_cancel hd]
  omega

theorem ofJson?_text (s : ByteSize) : ofJson? (.str s.text) = some s := by
  rw [ofJson?, text, String.toList_ofList, parse_render]
  rfl

end ByteSize

end Diorama
