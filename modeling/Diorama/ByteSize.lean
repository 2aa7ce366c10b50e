import Diorama.Json.Decode
import Diorama.Json.Printer
import Diorama.Text.Blank
import Diorama.Text.Digits

namespace Diorama

structure ByteSize where
  bytes : Nat
  fits : bytes < 0x1_0000_0000_0000_0000
  deriving DecidableEq

namespace ByteSize

inductive Error where
  | blank
  | badNumber (text : String) (cause : DigitsError)
  deriving DecidableEq

def Error.message : Error → String
  | .blank => "Empty string"
  | .badNumber text cause => s!"Invalid number '{text}': {cause.message}"

def saturated (n : Nat) : ByteSize := ⟨min n 0xffff_ffff_ffff_ffff, by omega⟩

instance : Inhabited ByteSize := ⟨saturated 0⟩

def kilobyte : Nat := 1024
def megabyte : Nat := 1024 * kilobyte
def gigabyte : Nat := 1024 * megabyte

def standard : ByteSize := ⟨4 * megabyte, by decide⟩

def unit? : Char → Option Nat
  | 'K' | 'k' => some kilobyte
  | 'M' | 'm' => some megabyte
  | 'G' | 'g' => some gigabyte
  | _ => none

/-- The text in front of a unit that may end it, and the bytes in that unit. -/
def splitUnit (s : List Char) : List Char × Nat :=
  match s.getLast?.bind unit? with
  | some u => (s.dropLast, u)
  | none => (s, 1)

def parse (s : List Char) : Except Error ByteSize :=
  match trim s with
  | [] => .error .blank
  | c :: cs =>
    let (number, unit) := splitUnit (c :: cs)
    match natural (trim number) with
    | .ok n => .ok (saturated (n * unit))
    | .error e => .error (.badNumber (.ofList number) e)

/-- In the largest unit that leaves no remainder. -/
def render (s : ByteSize) : List Char :=
  let n := s.bytes
  if gigabyte ≤ n ∧ n % gigabyte = 0 then Nat.toDigits 10 (n / gigabyte) ++ ['G']
  else if megabyte ≤ n ∧ n % megabyte = 0 then Nat.toDigits 10 (n / megabyte) ++ ['M']
  else if kilobyte ≤ n ∧ n % kilobyte = 0 then Nat.toDigits 10 (n / kilobyte) ++ ['K']
  else Nat.toDigits 10 n

def text (s : ByteSize) : String := .ofList s.render

def ofJson? : Json → Option ByteSize
  | .num n => n.toNat?.bind fun m => if h : m < 0x1_0000_0000_0000_0000 then some ⟨m, h⟩ else none
  | .str s => (parse s.toList).toOption
  | _ => none

def toJson (s : ByteSize) : Json := .str s.text

def ofDraft (d : Draft) : Except Fault ByteSize :=
  match d with
  | .num (some n) => d.expect (ofJson? (.num n))
  | .str (.ok s) => d.expect (ofJson? (.str s))
  | d => .error d.refuse

end ByteSize

end Diorama
