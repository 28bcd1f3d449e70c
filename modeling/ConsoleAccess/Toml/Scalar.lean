import ConsoleAccess.Calendar
import ConsoleAccess.Json.Numeral

/-!
Scalars of TOML: strings in four spellings, integers in four bases, floats, booleans, and dates and
times.

A word is a number by its shape. What number it is shows only when it is read, and it may be none:
an integer may be too large or hold what is no digit, and a float may be past all floats.

* `Toml.scalar?`: the scalar that a text starts with.
* `Toml.Scalar.hasValue`: whether a scalar can be read.
-/

namespace ConsoleAccess.Toml

/-- Of dates and times only the kind counts, and of floats only whether there is such a float. -/
inductive Scalar
  | string (t : Text)
  | integer (value? : Option Int)
  | float (hasValue : Bool)
  | boolean (b : Bool)
  | datetime
deriving DecidableEq, Repr

def Scalar.hasValue : Scalar → Bool
  | .integer value? => value?.isSome
  | .float hasValue => hasValue
  | _ => true

/-! ## Strings -/

def isPlain (c : Char) : Bool := c == '\t' || (0x20 ≤ c.toNat && c.toNat != 0x7F)

def apostrophe : Char := Char.ofNat 39

def unescape? (c : Char) : Option Char :=
  match c with
  | 'b' => some '\x08'
  | 't' => some '\t'
  | 'n' => some '\n'
  | 'f' => some '\x0C'
  | 'r' => some '\r'
  | 'e' => some '\x1B'
  | '"' => some '"'
  | '\\' => some '\\'
  | _ => none

def codePoint? (digits : Text) : Option Char :=
  (hexNumber? digits).bind fun n => if n.isValidChar then some (Char.ofNat n) else none

def escape? : Text → Option (Char × Text)
  | 'x' :: h₁ :: h₂ :: t => (codePoint? [h₁, h₂]).map (·, t)
  | 'u' :: h₁ :: h₂ :: h₃ :: h₄ :: t => (codePoint? [h₁, h₂, h₃, h₄]).map (·, t)
  | 'U' :: h₁ :: h₂ :: h₃ :: h₄ :: h₅ :: h₆ :: h₇ :: h₈ :: t =>
    (codePoint? [h₁, h₂, h₃, h₄, h₅, h₆, h₇, h₈]).map (·, t)
  | c :: t => (unescape? c).map (·, t)
  | [] => none

def basic? (done : Text) : Nat → Text → Option (Text × Text)
  | 0, _ => none
  | fuel + 1, t =>
    match t with
    | [] => none
    | '"' :: t => some (done.reverse, t)
    | '\\' :: t =>
      match escape? t with
      | some (c, t) => basic? (c :: done) fuel t
      | none => none
    | c :: t => if isPlain c then basic? (c :: done) fuel t else none

def literal? (t : Text) : Option (Text × Text) :=
  match t.span fun c => isPlain c && c != apostrophe with
  | (body, c :: rest) => if c = apostrophe then some (body, rest) else none
  | (_, []) => none

def dropBreak (t : Text) : Text :=
  match t with
  | '\n' :: t => t
  | '\r' :: '\n' :: t => t
  | _ => t

def startsWithBreak : Text → Bool
  | '\n' :: _ => true
  | '\r' :: '\n' :: _ => true
  | _ => false

def isBlank (c : Char) : Bool := c == ' ' || c == '\t'

/-- Splits the quotes off the start of a text. Three close a string of several lines, and one or two
before them belong to it. -/
def closing? (quote : Char) (t : Text) : Option (Text × Text) :=
  let count := (t.takeWhile (· == quote)).length
  if count < 3 then none
  else
    let kept := min count 5 - 3
    some (List.replicate kept quote, t.drop (kept + 3))

/-- Reads a basic string of several lines. After a backslash at the end of a line, blanks and line
breaks are skipped. -/
def multiBasic? (done : Text) (skipping : Bool) : Nat → Text → Option (Text × Text)
  | 0, _ => none
  | fuel + 1, t =>
    match closing? '"' t with
    | some (quotes, rest) => some ((quotes ++ done).reverse, rest)
    | none =>
      match t with
      | [] => none
      | '\r' :: '\n' :: t =>
        multiBasic? (if skipping then done else '\n' :: '\r' :: done) skipping fuel t
      | '\n' :: t => multiBasic? (if skipping then done else '\n' :: done) skipping fuel t
      | '\\' :: t =>
        if startsWithBreak (t.dropWhile isBlank) then multiBasic? done true fuel t
        else
          match escape? t with
          | some (c, t) => multiBasic? (c :: done) false fuel t
          | none => none
      | c :: t =>
        if isPlain c then
          if skipping && isBlank c then multiBasic? done true fuel t
          else multiBasic? (c :: done) false fuel t
        else none

def multiLiteral? (done : Text) : Nat → Text → Option (Text × Text)
  | 0, _ => none
  | fuel + 1, t =>
    match closing? apostrophe t with
    | some (quotes, rest) => some ((quotes ++ done).reverse, rest)
    | none =>
      match t with
      | [] => none
      | '\r' :: '\n' :: t => multiLiteral? ('\n' :: '\r' :: done) fuel t
      | '\n' :: t => multiLiteral? ('\n' :: done) fuel t
      | c :: t => if isPlain c then multiLiteral? (c :: done) fuel t else none

def line? (t : Text) : Option (Text × Text) :=
  match t with
  | '"' :: t => basic? [] (t.length + 1) t
  | c :: t => if c = apostrophe then literal? t else none
  | [] => none

def string? (t : Text) : Option (Text × Text) :=
  match t with
  | '"' :: '"' :: '"' :: t => multiBasic? [] false (t.length + 1) (dropBreak t)
  | c₁ :: c₂ :: c₃ :: rest =>
    if c₁ = apostrophe && c₂ = apostrophe && c₃ = apostrophe then
      multiLiteral? [] (rest.length + 1) (dropBreak rest)
    else line? t
  | _ => line? t

/-! ## Numbers -/

/-- Splits off a sign; true stands for a minus. -/
def sign (t : Text) : Bool × Text :=
  match t with
  | '-' :: t => (true, t)
  | '+' :: t => (false, t)
  | _ => (false, t)

def isHexDigit (c : Char) : Bool := (hexValue? c).isSome

def underscoresFit (isDigit : Char → Bool) (t : Text) : Bool :=
  let parts := t.splitOn '_'
  parts.tail.all (·.head?.any isDigit) && parts.dropLast.all (·.getLast?.any isDigit)

def withoutUnderscores (t : Text) : Text := t.filter (· != '_')

def fits (n : Int) : Bool := -Int.pow 2 127 ≤ n && n < Int.pow 2 128

def integerValue? (base : Nat) (t : Text) : Option Int :=
  let (negative, digits) := sign t
  if digits.isEmpty then none
  else
    let n? : Option Int :=
      (numberIn? base digits).map fun n => if negative then -(n : Int) else (n : Int)
    n?.filter fits

def inFloatRange (digits : Text) (power : Int) : Bool :=
  let digits := digits.dropWhile (· == '0')
  let n := digitsValue digits
  if n == 0 || power + digits.length ≤ 0 then true
  else if 400 < power + digits.length then
    power ≤ 0 && n / Nat.pow 10 (-power).toNat < Numeral.overflow
  else if power ≤ 0 then n < Numeral.overflow * Nat.pow 10 (-power).toNat
  else n * Nat.pow 10 power.toNat < Numeral.overflow

def digitGroup? (t : Text) : Option (Text × Text) :=
  let (group, rest) := t.span fun c => isDigit c || c == '_'
  let digits := withoutUnderscores group
  if digits.isEmpty then none else some (digits, rest)

def power? (t : Text) : Option Int :=
  match t with
  | [] => some 0
  | c :: rest =>
    let (negative, digits) := sign rest
    match c == 'e' || c == 'E', digitGroup? digits with
    | true, some (digits, []) =>
      some (if negative then -(digitsValue digits : Int) else (digitsValue digits : Int))
    | _, _ => none

/-- Reads a float without its sign, as digits and the power of ten that they count. A zero does not
start more digits. -/
def float? (t : Text) : Option (Text × Int) :=
  match digitGroup? t with
  | none => none
  | some (whole, rest) =>
    if t.head? == some '0' && 1 < whole.length then none
    else
      match rest with
      | '.' :: rest =>
        (digitGroup? rest).bind fun (fraction, rest) =>
          (power? rest).map fun power => (whole ++ fraction, power - fraction.length)
      | _ => (power? rest).map fun power => (whole, power)

/-! ## Dates and times -/

def date? : Text → Option Text
  | y₁ :: y₂ :: y₃ :: y₄ :: '-' :: t =>
    match twoDigits? t with
    | some (month, '-' :: t) =>
      match twoDigits? t with
      | some (day, t) =>
        let year := [y₁, y₂, y₃, y₄]
        if year.all isDigit && Calendar.hasDay (digitsValue year) month day then some t else none
      | none => none
    | _ => none
  | _ => none

/-- Seconds and their fraction may be missing; a minute may have a leap second. -/
def time? (t : Text) : Option Text :=
  match twoDigits? t with
  | some (hour, ':' :: t) =>
    match twoDigits? t with
    | some (minute, t) =>
      if 23 < hour || 59 < minute then none
      else
        match t with
        | ':' :: t =>
          match twoDigits? t with
          | some (second, t) =>
            if 60 < second then none
            else
              match t with
              | '.' :: t =>
                match t.span isDigit with
                | ([], _) => none
                | (_, t) => some t
              | _ => some t
          | none => none
        | _ => some t
    | none => none
  | _ => none

def isOffset : Text → Bool
  | [] => true
  | [c] => c == 'Z' || c == 'z'
  | c :: t =>
    (c == '+' || c == '-') &&
      match twoDigits? t with
      | some (hour, ':' :: t) =>
        match twoDigits? t with
        | some (minute, []) => hour ≤ 23 && minute ≤ 59
        | _ => false
      | _ => false

def isDatetime (t : Text) : Bool :=
  match date? t with
  | some [] => true
  | some (c :: rest) => (c == 'T' || c == 't' || c == ' ') && (time? rest).any isOffset
  | none => time? t == some []

/-! ## Words -/

def endsWord (c : Char) : Bool :=
  ['=', ',', '[', ']', '\x7b', '\x7d', ' ', '\t', '#', '\r', '\n'].contains c

def resumesWord (c : Char) : Bool := !endsWord c && c != '"' && c != apostrophe

def word (t : Text) : Text × Text :=
  match t with
  | [] => ([], [])
  | c :: rest =>
    if !endsWord c || (isBlank c && (rest.dropWhile isBlank).head?.any resumesWord) then
      let (w, rest) := word rest
      (c :: w, rest)
    else ([], c :: rest)

def ofInteger? (base : Nat) (t : Text) : Option Scalar :=
  if underscoresFit isHexDigit t then some (.integer (integerValue? base (withoutUnderscores t)))
  else none

/-- A word that starts with a digit after its sign: what follows the digits tells a date or a time,
a float and an integer apart. Only dates have a space before their time. -/
def ofNumber? (w unsigned : Text) : Option Scalar :=
  let startsWithZero := unsigned.head? == some '0'
  match unsigned.dropWhile isDigit with
  | [] => if startsWithZero && unsigned != ['0'] then none else ofInteger? 10 w
  | c :: rest =>
    if c == '-' || c == ':' then if isDatetime w then some .datetime else none
    else if (c :: rest).contains ' ' then none
    else if (c :: rest).any fun c => c == '.' || c == 'e' || c == 'E' then
      (float? unsigned).bind fun (digits, power) =>
        if underscoresFit isDigit w then some (.float (inFloatRange digits power)) else none
    else if c == '_' && !startsWithZero then ofInteger? 10 w
    else none

def base? : Char → Option Nat
  | 'x' => some 16
  | 'o' => some 8
  | 'b' => some 2
  | _ => none

/-- Words for numbers in another base than ten have no sign. -/
def ofWord? (w : Text) : Option Scalar :=
  let unsigned := (sign w).2
  if w == "true".toList then some (.boolean true)
  else if w == "false".toList then some (.boolean false)
  else if unsigned == "inf".toList || unsigned == "nan".toList then some (.float true)
  else
    match unsigned with
    | [] => none
    | c :: rest =>
      match c == '0', rest.head?.bind base? with
      | true, some base =>
        let digits := rest.tail
        let isDigit := fun c => ((hexValue? c).filter (· < base)).isSome
        if w == unsigned && digits.all (fun c => isDigit c || c == '_') then ofInteger? base digits
        else none
      | _, _ => if isDigit c then ofNumber? w unsigned else none

def scalar? (t : Text) : Option (Scalar × Text) :=
  match t with
  | [] => none
  | c :: _ =>
    if c == '"' || c == apostrophe then (string? t).map fun (s, rest) => (.string s, rest)
    else
      let (w, rest) := word t
      (ofWord? w).map (·, rest)

example : ofWord? "+1_000".toList = some (.integer (some 1000)) := by decide +kernel
example : ofWord? "1_2-3".toList = some (.integer none) := by decide +kernel
example : ofWord? "0o17".toList = some (.integer (some 15)) := by decide +kernel
example : ofWord? "1__0".toList = none ∧ ofWord? "01".toList = none := by decide +kernel
example : ofWord? "+_1".toList = none ∧ ofWord? "1_0 5".toList = none := by decide +kernel
example : word "1979-05-27 07:32 , 5".toList = ("1979-05-27 07:32".toList, " , 5".toList) := by
  decide +kernel

end ConsoleAccess.Toml
