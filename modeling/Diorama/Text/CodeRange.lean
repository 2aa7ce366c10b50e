/-!
Sets of characters, as ranges of their codes in ascending order. The codes are those of Unicode 17.
-/

namespace Diorama

/-- The first and the last code of each range. -/
abbrev CodeRanges := List (Nat × Nat)

namespace CodeRanges

/-- Whether a code lies in one of the ranges, as the ascending order lets one tell early. -/
def hold (n : Nat) : CodeRanges → Bool
  | [] => false
  | (first, last) :: rs => first ≤ n && (n ≤ last || hold n rs)

end CodeRanges

end Diorama
