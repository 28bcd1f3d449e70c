import ConsoleAccess.Text.Digits

/-!
Written numbers. A numeral keeps its digits; `Numeral.inRange` says whether it is small enough to be
a 64-bit floating-point number.
-/

namespace ConsoleAccess

structure Numeral where
  negative : Bool
  whole : Text
  fraction : Text
  exponent : Int
deriving DecidableEq, Repr

namespace Numeral

def scaled (n : Numeral) : Int × Int :=
  let digits : Int := digitsValue (n.whole ++ n.fraction)
  (if n.negative then -digits else digits, n.exponent - n.fraction.length)

def takeFitting (value : Nat) : Text → Nat × Text
  | [] => (value, [])
  | c :: rest =>
    let next := 10 * value + digitValue c
    if next < 1 <<< 64 then takeFitting next rest else (value, c :: rest)

def leading (n : Numeral) : Nat × Int :=
  let (value, dropped) := takeFitting 0 n.whole
  let (value, ignored) := takeFitting value n.fraction
  (value, n.exponent + dropped.length - (n.fraction.length - ignored.length))

/-- Rounds to 53 significant bits, a half to the even neighbour. -/
def roundBits (n : Nat) : Nat :=
  let unit := 1 <<< (n.log2 + 1 - 53)
  let quotient := n / unit
  let rest := n % unit
  let up := unit < 2 * rest || (unit == 2 * rest && quotient % 2 == 1)
  (if up && unit != 1 then quotient + 1 else quotient) * unit

/-- Products from here on round to infinity. -/
def overflow : Nat := 1 <<< 1024 - 1 <<< 970

/-- The leading digits, rounded, times the power of ten, rounded, stay below `overflow`. Powers
above 308 are out of range unless the digits are all zero. -/
def inRange (n : Numeral) : Bool :=
  let (value, power) := n.leading
  value == 0 || power ≤ 0 ||
    (power ≤ 308 && roundBits value * roundBits (Nat.pow 10 power.toNat) < overflow)

/-- The integer of a numeral whose digits reach no further than the point. Integers of 64 bits stand
as written, and larger ones are rounded. -/
def integer? (n : Numeral) : Option Int :=
  let (value, power) := n.scaled
  if value = 0 then some 0
  else if power < 0 then none
  else
    let size := value.natAbs * Nat.pow 10 power.toNat
    let fits := if value < 0 then size ≤ 1 <<< 63 else size < 1 <<< 64
    let kept : Int := if fits then size else roundBits size
    some (if value < 0 then -kept else kept)

end Numeral
end ConsoleAccess
