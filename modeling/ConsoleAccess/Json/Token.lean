import ConsoleAccess.Json.Basic

/-!
Tokens of JSON text: marks, words, numerals and strings. Only space, tab, line feed and carriage
return may stand between them.
-/

namespace ConsoleAccess.Json

inductive Token
  | openArray
  | closeArray
  | openObject
  | closeObject
  | comma
  | colon
  | null
  | bool (b : Bool)
  | number (n : Numeral)
  | string (text? : Option Text)
deriving DecidableEq, Repr

namespace Token

def isSpace (c : Char) : Bool := c == ' ' || c == '\t' || c == '\n' || c == '\r'

/-! ## Strings -/

def unescape? (c : Char) : Option Char :=
  match c with
  | '"' => some '"'
  | '\\' => some '\\'
  | '/' => some '/'
  | 'b' => some '\x08'
  | 'f' => some '\x0C'
  | 'n' => some '\n'
  | 'r' => some '\r'
  | 't' => some '\t'
  | _ => none

/-- A string under way: its characters, last first, unless an escape went wrong, and a high
surrogate that waits for its other half. -/
structure Draft where
  text? : Option Text := some []
  high : Option Nat := none
deriving DecidableEq, Repr

namespace Draft

def push (d : Draft) (c : Char) : Draft :=
  { text? := if d.high.isSome then none else d.text?.map (c :: ·) }

def pushUnit (d : Draft) (unit : Nat) : Draft :=
  if 0xDC00 ≤ unit && unit < 0xE000 then
    match d.high with
    | some high =>
      let point := 0x10000 + (high - 0xD800) * 0x400 + (unit - 0xDC00)
      { text? := d.text?.map (Char.ofNat point :: ·) }
    | none => { text? := none }
  else if 0xD800 ≤ unit && unit < 0xDC00 then
    { text? := if d.high.isSome then none else d.text?, high := some unit }
  else d.push (Char.ofNat unit)

def finish (d : Draft) : Option Text :=
  if d.high.isSome then none else d.text?.map List.reverse

end Draft

def scanString (d : Draft) : Text → Option (Option Text × Text)
  | [] => none
  | c :: rest =>
    if c = '"' then some (d.finish, rest)
    else if c = '\\' then
      match rest with
      | 'u' :: h₁ :: h₂ :: h₃ :: h₄ :: rest =>
        match hexNumber? [h₁, h₂, h₃, h₄] with
        | some unit => scanString (d.pushUnit unit) rest
        | none => none
      | e :: rest =>
        match unescape? e with
        | some c => scanString (d.push c) rest
        | none => none
      | [] => none
    else if c.toNat < 0x20 then none
    else scanString (d.push c) rest

/-! ## Numerals -/

def scanExponent (t : Text) : Option (Int × Text) :=
  match t with
  | c :: rest =>
    if c = 'e' || c = 'E' then
      let (negative, rest) :=
        match rest with
        | '-' :: rest => (true, rest)
        | '+' :: rest => (false, rest)
        | _ => (false, rest)
      match rest.span isDigit with
      | ([], _) => none
      | (digits, rest) =>
        let power : Int := digitsValue digits
        some (if negative then -power else power, rest)
    else some (0, t)
  | [] => some (0, t)

def scanFraction (t : Text) : Option (Text × Text) :=
  match t with
  | '.' :: rest =>
    match rest.span isDigit with
    | ([], _) => none
    | (digits, rest) => some (digits, rest)
  | _ => some ([], t)

def scanWhole (t : Text) : Option (Text × Text) :=
  match t.span isDigit with
  | ([], _) => none
  | ('0' :: _ :: _, _) => none
  | (digits, rest) => some (digits, rest)

def scanNumber (t : Text) : Option (Numeral × Text) :=
  let (negative, t) :=
    match t with
    | '-' :: t => (true, t)
    | _ => (false, t)
  match scanWhole t with
  | none => none
  | some (whole, t) =>
    match scanFraction t with
    | none => none
    | some (fraction, t) =>
      match scanExponent t with
      | none => none
      | some (exponent, t) => some ({ negative, whole, fraction, exponent }, t)

/-! ## Token lists -/

def next? (t : Text) : Option (Token × Text) :=
  match t with
  | '[' :: rest => some (.openArray, rest)
  | ']' :: rest => some (.closeArray, rest)
  | '\x7b' :: rest => some (.openObject, rest)
  | '\x7d' :: rest => some (.closeObject, rest)
  | ',' :: rest => some (.comma, rest)
  | ':' :: rest => some (.colon, rest)
  | '"' :: rest => (scanString {} rest).map fun (text?, rest) => (.string text?, rest)
  | 'n' :: 'u' :: 'l' :: 'l' :: rest => some (.null, rest)
  | 't' :: 'r' :: 'u' :: 'e' :: rest => some (.bool true, rest)
  | 'f' :: 'a' :: 'l' :: 's' :: 'e' :: rest => some (.bool false, rest)
  | _ => (scanNumber t).map fun (n, rest) => (.number n, rest)

def lexFrom (done : List Token) : Nat → Text → Option (List Token)
  | 0, _ => none
  | fuel + 1, t =>
    match t.dropWhile isSpace with
    | [] => some done.reverse
    | c :: rest =>
      match next? (c :: rest) with
      | some (token, rest) => lexFrom (token :: done) fuel rest
      | none => none

/-- The tokens of a text. Each takes a character at least, so the length of the text is fuel enough.
-/
def ofText? (t : Text) : Option (List Token) := lexFrom [] (t.length + 1) t

end Token
end ConsoleAccess.Json
