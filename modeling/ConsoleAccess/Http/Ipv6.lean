import ConsoleAccess.Text.Digits

/-!
IPv6 addresses: eight pieces of sixteen bits, in hexadecimal digits between colons. Two colons stand
once for a run of zeros, and the last two pieces may be written as an IPv4 address.

* `Ipv6.parse?` and `Ipv6.text`: reading, and the one way of writing.
-/

namespace ConsoleAccess.Http.Ipv6

def piece? (t : Text) : Option Nat :=
  if 0 < t.length && t.length ≤ 4 then numberIn? 16 t else none

def byte? (t : Text) : Option Nat :=
  let plain := t == ['0'] || (!t.isEmpty && t.head? != some '0')
  if plain && t.all isDigit && digitsValue t < 256 then some (digitsValue t) else none

def dotted? (t : Text) : Option (List Nat) :=
  match (t.splitOn '.').mapM byte? with
  | some [a, b, c, d] => some [a * 256 + b, c * 256 + d]
  | _ => none

/-- The pieces of one side of the double colon. Only the end of an address may be dotted. -/
def pieces? (atEnd : Bool) : List Text → Option (List Nat)
  | [] => some []
  | [last] =>
    match piece? last with
    | some piece => some [piece]
    | none => if atEnd then dotted? last else none
  | part :: parts =>
    match piece? part, pieces? atEnd parts with
    | some piece, some pieces => some (piece :: pieces)
    | _, _ => none

def sides : Text → Text × Option Text
  | [] => ([], none)
  | ':' :: ':' :: right => ([], some right)
  | c :: t =>
    let (left, right?) := sides t
    (c :: left, right?)

def parts (side : Text) : List Text := if side.isEmpty then [] else side.splitOn ':'

def parse? (t : Text) : Option (List Nat) :=
  match sides t with
  | (whole, none) => (pieces? true (parts whole)).filter fun pieces => pieces.length == 8
  | (left, some right) =>
    match pieces? false (parts left), pieces? true (parts right) with
    | some before, some after =>
      let written := before.length + after.length
      if written < 8 then some (before ++ List.replicate (8 - written) 0 ++ after) else none
    | _, _ => none

def zerosAt (pieces : List Nat) (i : Nat) : Nat := ((pieces.drop i).takeWhile (· == 0)).length

/-- The longest run of zeros, the first of equals, is left out if it has two at least. -/
def text (pieces : List Nat) : Text :=
  let joined := fun pieces : List Nat => [':'].intercalate (pieces.map (Nat.toDigits 16))
  let start := (List.range pieces.length).foldl
    (fun best i => if zerosAt pieces best < zerosAt pieces i then i else best) 0
  let count := zerosAt pieces start
  if count < 2 then joined pieces
  else joined (pieces.take start) ++ "::".toList ++ joined (pieces.drop (start + count))

example : parse? "0:0:0:0:0:0:0:1".toList = parse? "::1".toList := by decide
example : (parse? "2001:DB8::10.0.0.1".toList).map text = some "2001:db8::a00:1".toList := by
  decide
example : parse? "1:2:3:4:5:6:7::8".toList = none := by decide

end ConsoleAccess.Http.Ipv6
