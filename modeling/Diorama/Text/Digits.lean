namespace Diorama

inductive DigitsError where
  | missing
  | notADigit
  | tooLarge
  deriving DecidableEq

def DigitsError.message : DigitsError → String
  | .missing => "cannot parse integer from empty string"
  | .notADigit => "invalid digit found in string"
  | .tooLarge => "number too large to fit in target type"

/-- Append decimal digits to a number. The first character that is no digit, or that makes the
number too large, decides. -/
def digits (n : Nat) : List Char → Except DigitsError Nat
  | [] => .ok n
  | c :: cs =>
    if c.isDigit then
      let m := n * 10 + (c.toNat - 48)
      if m < 0x1_0000_0000_0000_0000 then digits m cs else .error .tooLarge
    else .error .notADigit

def natural : List Char → Except DigitsError Nat
  | [] => .error .missing
  | ['+'] => .error .notADigit
  | '+' :: cs => digits 0 cs
  | cs => digits 0 cs

end Diorama
