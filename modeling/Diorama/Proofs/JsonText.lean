import Diorama.Json.Printer
import Diorama.Json.Reader

namespace Diorama

namespace Draft

inductive Ends : List Char → Prop
  | nil : Ends []
  | comma (s : List Char) : Ends (',' :: s)
  | bracket (s : List Char) : Ends (']' :: s)
  | brace (s : List Char) : Ends ('\x7d' :: s)

end Draft

namespace Numeral

def value (n : Nat) (ds : List Nat) : Nat := ds.foldl (fun n d => n * 10 + d) n

theorem le_value (n : Nat) (ds : List Nat) : n ≤ value n ds := by
  induction ds generalizing n with
  | nil => exact Nat.le_refl n
  | cons d ds ih =>
    have hn := ih (n * 10 + d)
    rw [value, List.foldl_cons]
    rw [value] at hn
    omega

theorem whole_eq {n : Nat} {ds : List Nat} (h : value n ds < 0x1_0000_0000_0000_0000) :
    whole n ds = (value n ds, 0) := by
  induction ds generalizing n with
  | nil => rfl
  | cons d ds ih =>
    rw [whole, if_pos (Nat.lt_of_le_of_lt (le_value _ ds) h), ih h]
    rfl

end Numeral

namespace Draft

def digits (n : Nat) : List Nat := (Nat.toDigits 10 n).map fun c => c.toNat - 48

theorem value_digits (n : Nat) : Numeral.value 0 (digits n) = n := by
  have hf : (fun (n : Nat) (c : Char) => n * 10 + (c.toNat - 48)) =
      fun n c => 10 * n + (c.toNat - '0'.toNat) := by
    funext n c
    rw [Nat.mul_comm]
    rfl
  rw [Numeral.value, digits, List.foldl_map, hf]
  exact Nat.ofDigitChars_toDigits (by decide) (by decide)

theorem isDigit_toDigits {n : Nat} {c : Char} (h : c ∈ Nat.toDigits 10 n) : c.isDigit = true :=
  Nat.isDigit_of_mem_toDigits (by decide) (by decide) h

theorem digits_head (n : Nat) : ∃ d ds, digits n = d :: ds ∧ (d = 0 → ds = []) := by
  induction n using Nat.strongRecOn with
  | ind n ih =>
    by_cases hn : n < 10
    · refine ⟨(Nat.digitChar n).toNat - 48, [], ?_, fun _ => rfl⟩
      rw [digits, Nat.toDigits_of_lt_base hn, List.map_singleton]
    · obtain ⟨d, ds, hd, h⟩ := ih (n / 10) (by omega)
      refine ⟨d, ds ++ [(Nat.digitChar (n % 10)).toNat - 48], ?_, fun h0 => ?_⟩
      · rw [digits, Nat.toDigits_of_base_le (by decide) (by omega), List.map_append, ← digits, hd]
        rfl
      · -- A first digit zero stands alone, so that the number is below 10.
        have hv := value_digits (n / 10)
        rw [hd, h0, h h0] at hv
        simp [Numeral.value] at hv
        omega

section
variable {rest : List Char} (hr : Ends rest)
include hr

theorem Ends.digits : rest.takeWhile Char.isDigit = [] ∧ rest.dropWhile Char.isDigit = rest := by
  cases hr <;> exact ⟨rfl, rfl⟩

theorem takeWhile_digits {cs : List Char} (hc : ∀ c ∈ cs, c.isDigit = true) :
    (cs ++ rest).takeWhile Char.isDigit = cs ∧ (cs ++ rest).dropWhile Char.isDigit = rest := by
  rw [List.takeWhile_append_of_pos hc, List.dropWhile_append_of_pos hc, hr.digits.1, hr.digits.2,
    List.append_nil]
  exact ⟨rfl, rfl⟩

theorem numeral_toDigits (negative : Bool) (n : Nat) :
    numeral negative (Nat.toDigits 10 n ++ rest) =
      (.num (Numeral.number negative (digits n) none none), some rest) := by
  obtain ⟨ht, hd⟩ := takeWhile_digits hr fun _ => isDigit_toDigits (n := n)
  obtain ⟨d, ds, hn, h0⟩ := digits_head n
  have he : decimalDigits (Nat.toDigits 10 n ++ rest) = d :: ds := by
    rw [decimalDigits, ht, ← digits, hn]
  unfold numeral
  rw [he, hn]
  split
  · contradiction
  · contradiction
  · -- More digits behind a zero in front would be refused.
    rename_i h
    obtain ⟨rfl, rfl⟩ := List.cons.inj h
    exact absurd (h0 rfl) (List.cons_ne_nil _ _)
  · rw [hd]
    cases hr <;> rfl

omit hr in
theorem number_int (i : Integer) :
    Numeral.number (decide (i.val < 0)) (digits i.val.natAbs) none none = some (.int i) := by
  obtain ⟨n, low, high⟩ := i
  have hv : Numeral.whole 0 (digits n.natAbs) = (n.natAbs, 0) := by
    rw [Numeral.whole_eq, value_digits]
    rw [value_digits]
    omega
  rw [Numeral.number, hv]
  have ho : Integer.ofInt? n = some ⟨n, low, high⟩ := dif_pos ⟨low, high⟩
  by_cases hn : n < 0
  · have ha : -(n.natAbs : Int) = n := by omega
    have h0 : n.natAbs ≠ 0 := by omega
    simp only [hn, decide_true, if_true, ha, ho, if_neg h0]
  · have ha : (n.natAbs : Int) = n := by omega
    simp only [hn, decide_false, ha, Bool.false_eq_true, if_false, ho]

end

theorem hex_control : ∀ n < 0x20,
    hex? '0' '0' (Nat.digitChar (n / 16)) (Nat.digitChar (n % 16)) = some n := by decide

section
variable {c : Char} (hq : c ≠ '"') (hb : c ≠ '\\') (hc : ¬ c.toNat < 0x20) (t : List Char)
include hq hb hc

theorem passString_plain : passString (c :: t) = passString t := by
  rw [passString.eq_def]
  split <;> rename_i h <;> cases h
  · exact absurd rfl hq
  · exact absurd rfl hb
  · exact absurd rfl hb
  · exact absurd rfl hb
  · exact absurd rfl hb
  · exact if_neg hc

theorem readString_plain : readString (c :: t) = (readString t).map (c :: ·) := by
  rw [readString.eq_def]
  split <;> rename_i h <;> cases h
  · exact absurd rfl hq
  · exact absurd rfl hb
  · exact absurd rfl hb
  · exact absurd rfl hb
  · exact absurd rfl hb
  · exact if_neg hc

end

theorem passString_escape (c : Char) (t : List Char) :
    passString (Json.escape c ++ t) = passString t := by
  unfold Json.escape
  split
  any_goals rfl
  split
  · rename_i hc
    simp only [List.cons_append, List.nil_append]
    rw [passString, hex_control _ hc]
    rfl
  · rename_i hq hb _ _ _ _ _ hc
    exact passString_plain hq hb hc t

theorem readString_escape (c : Char) (t : List Char) :
    readString (Json.escape c ++ t) = (readString t).map (c :: ·) := by
  unfold Json.escape
  split
  any_goals rfl
  split
  · rename_i hc
    simp only [List.cons_append, List.nil_append]
    rw [readString, hex_control _ hc]
    dsimp only
    rw [if_pos (.inl (by omega)), Char.ofNat_toNat]
  · rename_i hq hb _ _ _ _ _ hc
    exact readString_plain hq hb hc t

theorem pass_quoted (cs rest : List Char) :
    passString (cs.flatMap Json.escape ++ '"' :: rest) = .ok rest := by
  induction cs with
  | nil => rfl
  | cons c cs ih => rw [List.flatMap_cons, List.append_assoc, passString_escape, ih]

theorem read_quoted (cs rest : List Char) :
    readString (cs.flatMap Json.escape ++ '"' :: rest) = .ok cs := by
  induction cs with
  | nil => rfl
  | cons c cs ih =>
    rw [List.flatMap_cons, List.append_assoc, readString_escape, ih]
    rfl

theorem string_quoted (s : String) (rest : List Char) :
    string (s.toList.flatMap Json.escape ++ '"' :: rest) = .ok s := by
  rw [string, read_quoted, Except.map, String.ofList_toList]

end Draft

namespace Json

mutual

/-- All numbers in it are integers. -/
def isExact : Json → Bool
  | .num (.float _) => false
  | .arr xs => isExactItems xs
  | .obj fs => isExactFields fs
  | _ => true

def isExactItems : List Json → Bool
  | [] => true
  | x :: xs => isExact x && isExactItems xs

def isExactFields : List (String × Json) → Bool
  | [] => true
  | (_, x) :: fs => isExact x && isExactFields fs

end

theorem isBlank_of_isDigit {c : Char} (hc : c.isDigit = true) : Draft.isBlank c = false := by
  simp only [Draft.isBlank, Bool.or_eq_false_iff, decide_eq_false_iff_not]
  refine ⟨⟨⟨?_, ?_⟩, ?_⟩, ?_⟩ <;> rintro rfl <;> exact absurd hc (by decide)

theorem integer_head (i : Integer) :
    ∃ c s, i.render = c :: s ∧ (c = '-' ∨ c.isDigit = true) := by
  rw [Integer.render]
  split
  · exact ⟨'-', _, rfl, .inl rfl⟩
  · obtain ⟨c, s, hs⟩ :=
      List.exists_cons_of_ne_nil (Nat.toDigits_ne_nil (b := 10) (n := i.val.natAbs))
    refine ⟨c, s, hs, .inr (Draft.isDigit_toDigits (n := i.val.natAbs) ?_)⟩
    rw [hs]
    exact List.mem_cons_self

theorem render_head {v : Json} (hv : v.isExact = true) :
    ∃ c s, v.render = c :: s ∧ Draft.isBlank c = false ∧ c ≠ ']' := by
  cases v with
  | null => exact ⟨_, _, rfl, rfl, by decide⟩
  | bool b => cases b <;> exact ⟨_, _, rfl, rfl, by decide⟩
  | num n =>
    cases n with
    | int i =>
      obtain ⟨c, s, hs, hc⟩ := integer_head i
      refine ⟨c, s, hs, ?_, ?_⟩
      · obtain rfl | hc := hc
        · rfl
        · exact isBlank_of_isDigit hc
      · rintro rfl
        exact absurd hc (by decide)
    | float x => cases hv
  | str s => exact ⟨_, _, rfl, rfl, by decide⟩
  | arr xs => exact ⟨_, _, rfl, rfl, by decide⟩
  | obj fs => exact ⟨_, _, rfl, rfl, by decide⟩

end Json

namespace Draft

theorem blanks_cons {c : Char} (hc : isBlank c = false) (s : List Char) :
    blanks (c :: s) = c :: s := by
  rw [blanks, List.dropWhile_cons, if_neg (by simp [hc])]

theorem read_digit {c : Char} (hc : c.isDigit = true) (fuel : Nat) (s : List Char) :
    read (fuel + 1) (c :: s) = numeral false (c :: s) := by
  rw [read, blanks_cons (Json.isBlank_of_isDigit hc)]
  split <;> rename_i h <;> cases h
  case h_9 => exact if_pos hc
  all_goals exact absurd hc (by decide)

theorem read_integer (i : Integer) {rest : List Char} (hr : Ends rest) (fuel : Nat) :
    read (fuel + 1) (i.render ++ rest) = (.num (some (.int i)), some rest) := by
  have hn := number_int i
  rw [Integer.render]
  by_cases hi : i.val < 0
  · rw [decide_eq_true hi] at hn
    have hm : read (fuel + 1) ('-' :: (Nat.toDigits 10 i.val.natAbs ++ rest)) =
        numeral true (Nat.toDigits 10 i.val.natAbs ++ rest) := rfl
    rw [if_pos hi, List.cons_append, hm, numeral_toDigits hr, hn]
  · rw [decide_eq_false hi] at hn
    obtain ⟨c, s, hs⟩ :=
      List.exists_cons_of_ne_nil (Nat.toDigits_ne_nil (b := 10) (n := i.val.natAbs))
    have hc : c.isDigit = true := isDigit_toDigits (hs ▸ List.mem_cons_self)
    have hm := numeral_toDigits hr false i.val.natAbs
    rw [hn, hs, List.cons_append] at hm
    rw [if_neg hi, hs, List.cons_append, read_digit hc, hm]

theorem quote_append (s : String) (rest : List Char) :
    Json.quote s ++ rest = '"' :: (s.toList.flatMap Json.escape ++ '"' :: rest) := by
  rw [Json.quote, ← List.cons_append, List.append_assoc, List.singleton_append]

theorem read_string (s : String) (rest : List Char) (fuel : Nat) :
    read (fuel + 1) (Json.quote s ++ rest) = (.str (.ok s), some rest) := by
  rw [quote_append, read, blanks_cons rfl]
  simp only [pass_quoted, string_quoted]

theorem read_list {c : Char} {s : List Char} (hb : isBlank c = false) (hc : c ≠ ']')
    (fuel : Nat) : read (fuel + 1) ('[' :: c :: s) =
      let r := readItems fuel (c :: s)
      (.arr r.1 r.2.1, r.2.2) := by
  rw [read, blanks_cons rfl]
  simp only [blanks_cons hb]
  split
  · rename_i h
    cases h
    exact absurd rfl hc
  · rfl

theorem read_fields (s : List Char) (fuel : Nat) : read (fuel + 1) ('\x7b' :: '"' :: s) =
      let r := readFields fuel ('"' :: s)
      (.obj r.1 r.2.1, r.2.2) := rfl

section
variable {s s' : List Char} {d : Draft} {fuel : Nat}

theorem readItems_last (hd : read fuel s = (d, some (']' :: s'))) :
    readItems (fuel + 1) s = ([d], none, some s') := by
  rw [readItems, hd]
  rfl

theorem readItems_comma (hd : read fuel s = (d, some (',' :: s'))) :
    readItems (fuel + 1) s = (d :: (readItems fuel s').1, (readItems fuel s').2) := by
  rw [readItems, hd]
  rfl

theorem readFields_last {name : String} (hd : read fuel s = (d, some ('\x7d' :: s'))) :
    readFields (fuel + 1) (Json.quote name ++ ':' :: s) = ([(.ok name, d)], none, some s') := by
  rw [quote_append, readFields, blanks_cons rfl]
  simp only [pass_quoted, string_quoted, blanks_cons (c := ':') rfl, hd]
  rfl

theorem readFields_comma {name : String} (hd : read fuel s = (d, some (',' :: s'))) :
    readFields (fuel + 1) (Json.quote name ++ ':' :: s) =
      ((.ok name, d) :: (readFields fuel s').1, (readFields fuel s').2) := by
  rw [quote_append, readFields, blanks_cons rfl]
  simp only [pass_quoted, string_quoted, blanks_cons (c := ':') rfl, hd]
  rfl

end

def entries (fs : List (String × List Char)) : List Char :=
  Json.separate (fs.map fun f => Json.quote f.1 ++ ':' :: f.2)

theorem separate_head {x : Json} {xs : List Json} (hx : Json.isExactItems (x :: xs) = true) :
    ∃ c s, Json.separate (Json.renderItems (x :: xs)) = c :: s ∧ isBlank c = false ∧ c ≠ ']' := by
  rw [Json.isExactItems, Bool.and_eq_true] at hx
  obtain ⟨c, s, hs, hc⟩ := Json.render_head hx.1
  rw [Json.renderItems, hs]
  cases xs <;> exact ⟨c, _, rfl, hc⟩

theorem entries_head (f : String × Json) (fs : List (String × Json)) :
    ∃ s, entries (Json.renderFields (f :: fs)) = '"' :: s := by
  cases fs <;> exact ⟨_, rfl⟩

open Json in
mutual

/-- A value is read off the front of a text, with two of fuel for each character. -/
theorem read_render : ∀ v : Json, v.isExact = true → ∀ (fuel : Nat) {rest : List Char},
    Ends rest → 2 * v.render.length ≤ fuel →
      read fuel (v.render ++ rest) = (v.draft, some rest)
  | v, hv, 0, rest, hr, hf => by
    obtain ⟨c, s, hs, _⟩ := render_head hv
    rw [hs, List.length_cons] at hf
    omega
  | .null, hv, fuel + 1, rest, hr, hf => rfl
  | .bool true, hv, fuel + 1, rest, hr, hf => rfl
  | .bool false, hv, fuel + 1, rest, hr, hf => rfl
  | .num (.int i), hv, fuel + 1, rest, hr, hf => read_integer i hr fuel
  | .num (.float x), hv, fuel + 1, rest, hr, hf => nomatch hv
  | .str s, hv, fuel + 1, rest, hr, hf => read_string s rest fuel
  | .arr [], hv, fuel + 1, rest, hr, hf => rfl
  | .arr (x :: xs), hv, fuel + 1, rest, hr, hf => by
    obtain ⟨c, s, hs, hb, hc⟩ := separate_head hv
    have hl : render (.arr (x :: xs)) = '[' :: separate (renderItems (x :: xs)) ++ [']'] := rfl
    rw [hl, List.length_append, List.length_cons, List.length_singleton] at hf
    have hi := readItems_render (x :: xs) (List.cons_ne_nil x xs) hv fuel rest (by omega)
    rw [hs, List.cons_append] at hi
    rw [hl, List.append_assoc, hs, List.cons_append, List.cons_append, List.singleton_append,
      read_list hb hc, hi]
    rfl
  | .obj [], hv, fuel + 1, rest, hr, hf => rfl
  | .obj (f :: fs), hv, fuel + 1, rest, hr, hf => by
    obtain ⟨s, hs⟩ := entries_head f fs
    have hl : render (.obj (f :: fs)) =
        '\x7b' :: entries (renderFields (f :: fs)) ++ ['\x7d'] := rfl
    rw [hl, List.length_append, List.length_cons, List.length_singleton] at hf
    have hi := readFields_render (f :: fs) (List.cons_ne_nil f fs) hv fuel rest (by omega)
    rw [hs, List.cons_append] at hi
    rw [hl, List.append_assoc, hs, List.cons_append, List.cons_append, List.singleton_append,
      read_fields, hi]
    rfl

theorem readItems_render : ∀ xs : List Json, xs ≠ [] → isExactItems xs = true →
    ∀ (fuel : Nat) (rest : List Char), 2 * (separate (renderItems xs)).length + 1 ≤ fuel →
      readItems fuel (separate (renderItems xs) ++ ']' :: rest) =
        (draftItems xs, none, some rest)
  | [], hn, _, _, _, _ => absurd rfl hn
  | [x], _, hx, fuel + 1, rest, hf => by
    simp only [isExactItems, Bool.and_eq_true] at hx
    exact readItems_last (read_render x hx.1 fuel (.bracket rest) (Nat.le_of_succ_le_succ hf))
  | x :: y :: xs, _, hx, fuel + 1, rest, hf => by
    rw [isExactItems, Bool.and_eq_true] at hx
    have hl : separate (renderItems (x :: y :: xs)) =
        x.render ++ ',' :: separate (renderItems (y :: xs)) := rfl
    rw [hl, List.length_append, List.length_cons] at hf
    have hd := read_render x hx.1 fuel (.comma (separate (renderItems (y :: xs)) ++ ']' :: rest))
      (by omega)
    have hi := readItems_render (y :: xs) (List.cons_ne_nil y xs) hx.2 fuel rest (by omega)
    rw [hl, List.append_assoc, List.cons_append, readItems_comma hd, hi]
    rfl

theorem readFields_render : ∀ fs : List (String × Json), fs ≠ [] → isExactFields fs = true →
    ∀ (fuel : Nat) (rest : List Char), 2 * (entries (renderFields fs)).length + 1 ≤ fuel →
      readFields fuel (entries (renderFields fs) ++ '\x7d' :: rest) =
        (draftFields fs, none, some rest)
  | [], hn, _, _, _, _ => absurd rfl hn
  | [(name, x)], _, hx, fuel + 1, rest, hf => by
    simp only [isExactFields, Bool.and_eq_true] at hx
    have hl : entries (renderFields [(name, x)]) = quote name ++ ':' :: x.render := rfl
    rw [hl, List.length_append, List.length_cons] at hf
    have hd := read_render x hx.1 fuel (.brace rest) (by omega)
    rw [hl, List.append_assoc, List.cons_append, readFields_last hd]
    rfl
  | (name, x) :: f :: fs, _, hx, fuel + 1, rest, hf => by
    rw [isExactFields, Bool.and_eq_true] at hx
    have hl : entries (renderFields ((name, x) :: f :: fs)) =
        quote name ++ ':' :: x.render ++ ',' :: entries (renderFields (f :: fs)) := rfl
    rw [hl, List.length_append, List.length_append, List.length_cons, List.length_cons] at hf
    have hd := read_render x hx.1 fuel (.comma (entries (renderFields (f :: fs)) ++ '\x7d' :: rest))
      (by omega)
    have hi := readFields_render (f :: fs) (List.cons_ne_nil f fs) hx.2 fuel rest (by omega)
    rw [hl, List.append_assoc, List.append_assoc, List.cons_append, List.cons_append,
      readFields_comma hd, hi]
    rfl

end

end Draft

end Diorama
