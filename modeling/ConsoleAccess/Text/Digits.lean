import ConsoleAccess.Text.Blank

/-!
Digits: the decimal ones, and the hexadecimal ones in either case.
-/

namespace ConsoleAccess

def isDigit (c : Char) : Bool := '0' ≤ c && c ≤ '9'

def digitValue (c : Char) : Nat := c.toNat - '0'.toNat

def digitsValue (digits : Text) : Nat := digits.foldl (fun n c => 10 * n + digitValue c) 0

def twoDigits? : Text → Option (Nat × Text)
  | a :: b :: t => if isDigit a && isDigit b then some (digitsValue [a, b], t) else none
  | _ => none

def hexValue? (c : Char) : Option Nat :=
  if isDigit c then some (digitValue c)
  else if 'a' ≤ c && c ≤ 'f' then some (c.toNat - 'a'.toNat + 10)
  else if 'A' ≤ c && c ≤ 'F' then some (c.toNat - 'A'.toNat + 10)
  else none

def hexNumber? (digits : Text) : Option Nat :=
  (digits.mapM hexValue?).map fun values => values.foldl (fun n v => 16 * n + v) 0

def numberIn? (base : Nat) (digits : Text) : Option Nat :=
  digits.foldl (fun n? c =>
    match n?, hexValue? c with
    | some n, some v => if v < base then some (base * n + v) else none
    | _, _ => none) (some 0)

def decimalText (n : Nat) : Text := Nat.toDigits 10 n

def hexText : Nat → Nat → Text
  | 0, _ => []
  | count + 1, n => hexText count (n / 16) ++ [Nat.digitChar (n % 16)]

theorem length_hexText (count n : Nat) : (hexText count n).length = count := by
  induction count generalizing n with
  | zero => rfl
  | succ count ih => simp [hexText, ih]

theorem hexValue?_digitChar : ∀ n < 16, hexValue? (Nat.digitChar n) = some n := by decide

end ConsoleAccess
