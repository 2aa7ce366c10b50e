import Diorama.Wire.Batch
import Diorama.Wire.HostMessage

/-!
Texts in a stream of bytes. A frame is the length of its text in four bytes, the highest first, and
the text in UTF-8. A stream may end between two frames only.
-/

namespace Diorama

inductive FrameError where
  | cut
  | unread
  | tooLarge (length max : Nat)
  | notText
  /-- The stream ends between two frames, or a frame is empty. -/
  | closed
  | unreadable (fault : Fault)
  deriving DecidableEq

def FrameError.message : FrameError → String
  | .cut => "IO error: early eof"
  | .unread => "IO error: broken pipe"
  | .tooLarge length max => s!"Message too large: {length} bytes (max: {max})"
  | .notText => "Frame is not valid UTF-8"
  | .closed => "Connection closed"
  | .unreadable _ => "Serialization error"

namespace Frame

def utf8 (s : String) : List UInt8 := s.toUTF8.toList

def ofUtf8? (bytes : List UInt8) : Option String := String.fromUTF8? ⟨bytes.toArray⟩

/-- Four bytes hold a number modulo `2 ^ 32`. -/
def word (n : Nat) : List UInt8 :=
  [.ofNat (n / 0x1000000), .ofNat (n / 0x10000), .ofNat (n / 0x100), .ofNat n]

def ofWord (a b c d : UInt8) : Nat :=
  ((a.toNat * 256 + b.toNat) * 256 + c.toNat) * 256 + d.toNat

def write (max : Nat) (text : String) : Except FrameError (List UInt8) :=
  let body := utf8 text
  if max < body.length then .error (.tooLarge body.length max) else .ok (word body.length ++ body)

def read (max : Nat) : List UInt8 → Except FrameError String × List UInt8
  | a :: b :: c :: d :: rest =>
    let length := ofWord a b c d
    if max < length then (.error (.tooLarge length max), rest)
    else if length = 0 then (.error .closed, rest)
    else if rest.length < length then (.error .cut, [])
    else
      match ofUtf8? (rest.take length) with
      | some text => (.ok text, rest.drop length)
      | none => (.error .notText, rest.drop length)
  | _ => (.error .closed, [])

variable {α : Type}

def readMessage (parse : List Char → Except Fault α) (max : Nat) (s : List UInt8) :
    Except FrameError α × List UInt8 :=
  match read max s with
  | (.ok text, rest) => ((parse text.toList).mapError .unreadable, rest)
  | (.error e, rest) => (.error e, rest)

/-- Read on until the stream fails. A text that is not a message does not end the reading. -/
def readAll (step : List UInt8 → Except FrameError α × List UInt8) (s : List UInt8) :
    List (Except FrameError α) × List UInt8 :=
  go (s.length / 5 + 1) s
where
  go : Nat → List UInt8 → List (Except FrameError α) × List UInt8
    | 0, s => ([], s)
    | fuel + 1, s =>
      let (r, rest) := step s
      let goOn := match r with
        | .ok _ | .error (.unreadable _) => true
        | .error _ => false
      if goOn then
        let (rs, rest) := go fuel rest
        (r :: rs, rest)
      else ([r], rest)

end Frame

end Diorama
