/-!
Texts cut at a place that is counted in bytes of UTF-8. A place inside of a character counts as the
place behind it. Main statements: nothing is lost at a cut, and a cut behind a text is made by its
count of bytes.
-/

namespace Diorama

def byteCount (s : List Char) : Nat := s.foldr (fun c n => c.utf8Size + n) 0

@[simp] theorem byteCount_cons (c : Char) (s : List Char) :
    byteCount (c :: s) = c.utf8Size + byteCount s := rfl

def takeBytes : Nat → List Char → List Char
  | 0, _ | _, [] => []
  | n, c :: cs => c :: takeBytes (n - c.utf8Size) cs

def dropBytes : Nat → List Char → List Char
  | 0, cs => cs
  | _, [] => []
  | n, c :: cs => dropBytes (n - c.utf8Size) cs

theorem takeBytes_append_dropBytes (n : Nat) (s : List Char) :
    takeBytes n s ++ dropBytes n s = s := by
  induction s generalizing n with
  | nil => cases n <;> rfl
  | cons c cs ih =>
    cases n with
    | zero => rfl
    | succ n => simp [takeBytes, dropBytes, ih]

theorem takeBytes_byteCount (s t : List Char) : takeBytes (byteCount s) (s ++ t) = s := by
  induction s with
  | nil => cases t <;> rfl
  | cons c s ih =>
    have hc := c.utf8Size_pos
    obtain ⟨n, hn⟩ : ∃ n, byteCount (c :: s) = n + 1 :=
      ⟨c.utf8Size + byteCount s - 1, by simp; omega⟩
    have hd : n + 1 - c.utf8Size = byteCount s := by simp at hn; omega
    rw [hn, List.cons_append, takeBytes, hd, ih]
    simp

theorem dropBytes_byteCount (s t : List Char) : dropBytes (byteCount s) (s ++ t) = t := by
  have h := takeBytes_append_dropBytes (byteCount s) (s ++ t)
  rwa [takeBytes_byteCount, List.append_cancel_left_eq] at h

end Diorama
