import Diorama.Json.Draft

/-!
Texts to drafts. The grammar is the strict one: no byte order mark, no comments, no comma before a
closing bracket, no control character inside a string, and at most 127 arrays and objects one in
another where a value is read.
-/

namespace Diorama

namespace Numeral

/-- Digits of a whole part as a 64 bit word, and how many no longer fit behind it. -/
def whole : Nat → List Nat → Nat × Nat
  | n, [] => (n, 0)
  | n, d :: ds =>
    if n * 10 + d < 0x1_0000_0000_0000_0000 then whole (n * 10 + d) ds else (n, ds.length + 1)

def fraction : Nat → List Nat → Nat × Nat
  | n, [] => (n, 0)
  | n, d :: ds =>
    if n * 10 + d < 0x1_0000_0000_0000_0000 then
      let (m, used) := fraction (n * 10 + d) ds
      (m, used + 1)
    else (n, 0)

def tenTo (n : Nat) : Float := Float.ofScientific 1 false n

/-- `x * 10 ^ e` by one rounded multiplication or division; a smaller power than `-308` is reached
in steps. A result beyond all finite numbers is none. -/
def scale : Nat → Float → Int → Option Float
  | 0, x, _ => some x
  | steps + 1, x, e =>
    if e.natAbs ≤ 308 then
      if 0 ≤ e then
        let y := x * tenTo e.natAbs
        if y.isInf then none else some y
      else some (x / tenTo e.natAbs)
    else if x == 0 then some x
    else if 0 ≤ e then none
    else scale steps (x / tenTo 308) (e + 308)

def binary (negative : Bool) (n : Nat) (e : Int) : Option Number :=
  (scale 4 (Float.ofNat n) e).map fun x => .float (.ofFloat (if negative then -x else x))

/-- The number of a literal. Without fraction and exponent it is an integer if it fits a 64 bit
word; `-0` is not one. -/
def number (negative : Bool) (digits : List Nat) (decimals : Option (List Nat))
    (exponent : Option Int) : Option Number :=
  let (n, excess) := whole 0 digits
  match decimals, exponent with
  | none, none =>
    match excess, negative, Integer.ofInt? (if negative then -n else n) with
    | 0, false, some i => some (.int i)
    | 0, true, some i => if n = 0 then binary true n 0 else some (.int i)
    | _, _, _ => binary negative n excess
  | _, _ =>
    let (m, used) := fraction n (decimals.getD [])
    binary negative m (excess - used + exponent.getD 0)

end Numeral

namespace Draft

/-- A draft with the text behind it, or with none where the text cannot be followed. -/
abbrev Step := Draft × Option (List Char)

def halt (f : Fault) : Step := (.broken f f, none)

def isBlank (c : Char) : Bool := c = ' ' || c = '\n' || c = '\t' || c = '\r'

def blanks (s : List Char) : List Char := s.dropWhile isBlank

def word : List Char → Draft → List Char → Step
  | [], d, s => (d, some s)
  | _ :: _, _, [] => halt .truncated
  | c :: w, d, x :: s => if c = x then word w d s else halt .malformed

def decimalDigits (s : List Char) : List Nat := (s.takeWhile Char.isDigit).map fun c => c.toNat - 48

/-- The part of a literal behind the whole digits. A literal that the text cuts short is too short
for reading and malformed for skipping. -/
def literal (negative : Bool) (digits : List Nat) (decimals : Option (List Nat)) (s : List Char) :
    Step :=
  match s with
  | 'e' :: s | 'E' :: s =>
    let (sign, s) := match s with
      | '+' :: s => (1, s)
      | '-' :: s => (-1, s)
      | s => ((1 : Int), s)
    match decimalDigits s, s with
    | [], [] => (.broken .truncated .malformed, none)
    | [], _ => halt .malformed
    | ds, s =>
      let e := sign * (ds.foldl (fun n d => n * 10 + d) 0 : Nat)
      (.num (Numeral.number negative digits decimals (some e)), some (s.dropWhile Char.isDigit))
  | s => (.num (Numeral.number negative digits decimals none), some s)

def numeral (negative : Bool) (s : List Char) : Step :=
  match decimalDigits s, s with
  | [], [] => (.broken .truncated .malformed, none)
  | [], _ => halt .malformed
  | 0 :: _ :: _, _ => halt .malformed
  | ds, s =>
    match s.dropWhile Char.isDigit with
    | '.' :: s =>
      match decimalDigits s, s with
      | [], [] => (.broken .truncated .malformed, none)
      | [], _ => halt .malformed
      | fs, s => literal negative ds (some fs) (s.dropWhile Char.isDigit)
    | s => literal negative ds none s

def hexDigit? (c : Char) : Option Nat :=
  if '0' ≤ c ∧ c ≤ '9' then some (c.toNat - 48)
  else if 'a' ≤ c ∧ c ≤ 'f' then some (c.toNat - 87)
  else if 'A' ≤ c ∧ c ≤ 'F' then some (c.toNat - 55)
  else none

def hex? (a b c d : Char) : Option Nat := do
  return (((← hexDigit? a) * 16 + (← hexDigit? b)) * 16 + (← hexDigit? c)) * 16 + (← hexDigit? d)

/-- The fault of an escape with less than four characters behind its letter. It is too short if they
are less than four bytes. -/
def cutEscape (s : List Char) : Fault :=
  if (String.ofList s).utf8ByteSize < 4 then .truncated else .malformed

def unescape (c : Char) : Option Char :=
  match c with
  | '"' => some '"'
  | '\\' => some '\\'
  | '/' => some '/'
  | 'b' => some '\x08'
  | 'f' => some '\x0c'
  | 'n' => some '\n'
  | 'r' => some '\r'
  | 't' => some '\t'
  | _ => none

def passString : List Char → Except Fault (List Char)
  | [] => .error .truncated
  | '"' :: s => .ok s
  | ['\\'] => .error .truncated
  | '\\' :: 'u' :: a :: b :: c :: d :: s =>
    if (hex? a b c d).isSome then passString s else .error .malformed
  | '\\' :: 'u' :: s => .error (cutEscape s)
  | '\\' :: c :: s => if (unescape c).isSome then passString s else .error .malformed
  | c :: s => if c < ' ' then .error .malformed else passString s

/-- The content of a string. A character outside the first plane is escaped as a surrogate pair. -/
def readString : List Char → Except Fault (List Char)
  | [] => .error .truncated
  | '"' :: _ => .ok []
  | ['\\'] => .error .truncated
  | '\\' :: 'u' :: a :: b :: c :: d :: s =>
    match hex? a b c d with
    | none => .error .malformed
    | some n =>
      if n < 0xd800 ∨ 0xdfff < n then (readString s).map (Char.ofNat n :: ·)
      else if 0xdc00 ≤ n then .error .malformed
      else match s with
        | [] => .error .truncated
        | ['\\'] => .error .truncated
        | '\\' :: 'u' :: a :: b :: c :: d :: s =>
          match hex? a b c d with
          | none => .error .malformed
          | some m =>
            if m < 0xdc00 ∨ 0xdfff < m then .error .malformed
            else
              (readString s).map (Char.ofNat (0x10000 + (n - 0xd800) * 0x400 + (m - 0xdc00)) :: ·)
        | '\\' :: 'u' :: s => .error (cutEscape s)
        | _ => .error .malformed
  | '\\' :: 'u' :: s => .error (cutEscape s)
  | '\\' :: c :: s =>
    match unescape c with
    | none => .error .malformed
    | some c => (readString s).map (c :: ·)
  | c :: s => if c < ' ' then .error .malformed else (readString s).map (c :: ·)

def string (s : List Char) : Except Fault String := (readString s).map .ofList

def brokenString (s : List Char) (f : Fault) : Draft :=
  match readString s with
  | .error g => .broken g f
  | .ok _ => .broken f f

mutual

/-- One value at the head of a text. The fuel is the length of the text. -/
def read : Nat → List Char → Step
  | 0, _ => halt .truncated
  | fuel + 1, s =>
    match blanks s with
    | [] => halt .truncated
    | 'n' :: s => word ['u', 'l', 'l'] .null s
    | 't' :: s => word ['r', 'u', 'e'] (.bool true) s
    | 'f' :: s => word ['a', 'l', 's', 'e'] (.bool false) s
    | '"' :: s =>
      match passString s with
      | .ok rest => (.str (string s), some rest)
      | .error f => (brokenString s f, none)
    | '-' :: s => numeral true s
    | '[' :: s =>
      match blanks s with
      | ']' :: s => (.arr [] none, some s)
      | s =>
        let (ds, stop, rest) := readItems fuel s
        (.arr ds stop, rest)
    | '\x7b' :: s =>
      match blanks s with
      | '\x7d' :: s => (.obj [] none, some s)
      | s =>
        let (fs, stop, rest) := readFields fuel s
        (.obj fs stop, rest)
    | c :: s => if c.isDigit then numeral false (c :: s) else halt .malformed

def readItems : Nat → List Char → List Draft × Option Fault × Option (List Char)
  | 0, _ => ([], some .truncated, none)
  | fuel + 1, s =>
    match read fuel s with
    | (d, none) => ([d], none, none)
    | (d, some s) =>
      match blanks s with
      | ',' :: s =>
        let (ds, stop, rest) := readItems fuel s
        (d :: ds, stop, rest)
      | ']' :: s => ([d], none, some s)
      | [] => ([d], some .truncated, none)
      | _ => ([d], some .malformed, none)

def readFields :
    Nat → List Char → List (Except Fault String × Draft) × Option Fault × Option (List Char)
  | 0, _ => ([], some .truncated, none)
  | fuel + 1, s =>
    match blanks s with
    | [] => ([], some .truncated, none)
    | '"' :: s =>
      match passString s with
      | .error f => ([(string s, brokenString s f)], none, none)
      | .ok rest =>
        match blanks rest with
        | [] => ([(string s, .broken .truncated .truncated)], none, none)
        | ':' :: rest =>
          match read fuel rest with
          | (d, none) => ([(string s, d)], none, none)
          | (d, some rest) =>
            match blanks rest with
            | ',' :: rest =>
              let (fs, stop, rest) := readFields fuel rest
              ((string s, d) :: fs, stop, rest)
            | '\x7d' :: rest => ([(string s, d)], none, some rest)
            | [] => ([(string s, d)], some .truncated, none)
            | _ => ([(string s, d)], some .malformed, none)
        | _ => ([(string s, .broken .malformed .malformed)], none, none)
    | _ => ([], some .malformed, none)

end

/-- Read a whole text by way of its draft. What is wrong behind the value is found only once the
value itself has been read. -/
def decode {α : Type} (f : Draft → Except Fault α) (s : List Char) : Except Fault α := do
  let (d, rest) := read (2 * s.length + 2) s
  let a ← f d
  match rest.map blanks with
  | some (_ :: _) => .error .malformed
  | _ => return a

end Draft

def Json.room : Nat := 127

def Json.parse (s : List Char) : Except Fault Json := Draft.decode (·.value room) s

end Diorama
