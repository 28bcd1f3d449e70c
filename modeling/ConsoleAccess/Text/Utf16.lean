import ConsoleAccess.Text.Utf8

/-!
UTF-16, and texts in an encoding that a byte order mark at their start names.
-/

namespace ConsoleAccess

namespace Utf16

/-- Reads units of two bytes, after the first half of a pair if one stands open. A half without the
other becomes U+FFFD, and so do bytes at the end that make no unit. -/
def decodeFrom (bigEndian : Bool) : Option Nat → List UInt8 → Text
  | none, [] => []
  | some _, [] => ['\uFFFD']
  | _, [_] => ['\uFFFD']
  | high?, a :: b :: rest =>
    let unit := if bigEndian then a.toNat * 256 + b.toNat else b.toNat * 256 + a.toNat
    let isHigh := 0xD800 ≤ unit && unit < 0xDC00
    let isLow := 0xDC00 ≤ unit && unit < 0xE000
    match high? with
    | some high =>
      if isLow then
        Char.ofNat (0x10000 + (high - 0xD800) * 0x400 + (unit - 0xDC00)) ::
          decodeFrom bigEndian none rest
      else if isHigh then '\uFFFD' :: decodeFrom bigEndian (some unit) rest
      else '\uFFFD' :: Char.ofNat unit :: decodeFrom bigEndian none rest
    | none =>
      if isHigh then decodeFrom bigEndian (some unit) rest
      else if isLow then '\uFFFD' :: decodeFrom bigEndian none rest
      else Char.ofNat unit :: decodeFrom bigEndian none rest

def decodeLenient (bigEndian : Bool) (bytes : List UInt8) : Text :=
  decodeFrom bigEndian none bytes

end Utf16

/-- A text is in UTF-8 unless its mark says otherwise. The mark is no part of it. -/
def Text.decodeMarked : List UInt8 → Text
  | 0xEF :: 0xBB :: 0xBF :: rest => Utf8.decodeLenient rest
  | 0xFE :: 0xFF :: rest => Utf16.decodeLenient true rest
  | 0xFF :: 0xFE :: rest => Utf16.decodeLenient false rest
  | bytes => Utf8.decodeLenient bytes

example : Text.decodeMarked [0xEF, 0xBB, 0xBF, 0x7B, 0x7D] = ['\x7b', '\x7d'] := by decide
example :
    Text.decodeMarked [0xFF, 0xFE, 0x3D, 0xD8, 0x00, 0xDE, 0x00, 0xDC, 0x41] =
      ['😀', '\uFFFD', '\uFFFD'] := by decide

end ConsoleAccess
