import ConsoleAccess.Text.Blank

/-!
UTF-8. `Utf8.decode` reads bytes into characters and marks each maximal run of bytes that begins no
character; strict and lenient reading are two views of its result.

* `Text.takeBytes?` cuts a text after a number of bytes, where a character ends there.
-/

namespace ConsoleAccess

namespace Text

def byteSize (t : Text) : Nat := t.foldr (fun c size => c.utf8Size + size) 0

/-- The leading part that takes exactly `n` bytes; none if the text is shorter, or if the cut would
fall inside a character. -/
def takeBytes? : Text → Nat → Option Text
  | _, 0 => some []
  | [], _ + 1 => none
  | c :: t, n + 1 =>
    if c.utf8Size ≤ n + 1 then (takeBytes? t (n + 1 - c.utf8Size)).map (c :: ·) else none

end Text

namespace Utf8

/-- A character under way: its value so far, the tail bytes still due, and the bounds of the next.
-/
structure Pending where
  value : Nat
  due : Nat
  low : UInt8 := 0x80
  high : UInt8 := 0xBF
deriving DecidableEq, Repr

inductive Reading
  | character (c : Char)
  | pending (p : Pending)
  | invalid
deriving DecidableEq, Repr

/-- Reads a byte where a character starts. The bounds after E0, ED, F0 and F4 keep out overlong
forms, surrogates and values above 10FFFF. -/
def start (b : UInt8) : Reading :=
  if b < 0x80 then .character (Char.ofNat b.toNat)
  else if b < 0xC2 then .invalid
  else if b < 0xE0 then .pending { value := b.toNat - 0xC0, due := 1 }
  else if b = 0xE0 then .pending { value := 0, due := 2, low := 0xA0 }
  else if b = 0xED then .pending { value := 0xD, due := 2, high := 0x9F }
  else if b < 0xF0 then .pending { value := b.toNat - 0xE0, due := 2 }
  else if b = 0xF0 then .pending { value := 0, due := 3, low := 0x90 }
  else if b < 0xF4 then .pending { value := b.toNat - 0xF0, due := 3 }
  else if b = 0xF4 then .pending { value := 4, due := 3, high := 0x8F }
  else .invalid

def Pending.next (p : Pending) (b : UInt8) : Reading :=
  if p.low ≤ b && b ≤ p.high then
    let value := p.value * 64 + (b.toNat - 0x80)
    if p.due ≤ 1 then .character (Char.ofNat value)
    else .pending { value := value, due := p.due - 1 }
  else .invalid

/-- Characters in order; `none` stands for a maximal run of bytes that begins no character. -/
def decodeFrom : Option Pending → List UInt8 → List (Option Char)
  | none, [] => []
  | some _, [] => [none]
  | none, b :: rest =>
    match start b with
    | .character c => some c :: decodeFrom none rest
    | .pending p => decodeFrom (some p) rest
    | .invalid => none :: decodeFrom none rest
  | some p, b :: rest =>
    match p.next b with
    | .character c => some c :: decodeFrom none rest
    | .pending p => decodeFrom (some p) rest
    | .invalid =>
      match start b with
      | .character c => none :: some c :: decodeFrom none rest
      | .pending p => none :: decodeFrom (some p) rest
      | .invalid => none :: none :: decodeFrom none rest

def decode (bytes : List UInt8) : List (Option Char) := decodeFrom none bytes

def decode? (bytes : List UInt8) : Option Text := (decode bytes).mapM id

def decodeLenient (bytes : List UInt8) : Text := (decode bytes).map fun c => c.getD '\uFFFD'

example : decode? [0xC3, 0xA9, 0x41] = some ['é', 'A'] := by decide
example : decodeLenient [0xFF, 0x41, 0xC3, 0x28] = ['\uFFFD', 'A', '\uFFFD', '('] := by decide
example :
    decodeLenient [0xE2, 0x82, 0x41, 0xED, 0xA0] = ['\uFFFD', 'A', '\uFFFD', '\uFFFD'] := by decide

end Utf8
end ConsoleAccess
