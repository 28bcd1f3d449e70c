import ConsoleAccess.Calendar
import ConsoleAccess.Text.Digits

/-!
Dates of cookies, in seconds since the start of 1970. A date has one of four layouts, all with the
names of days and months in English and their letters in exactly this case. A weekday may be left
out; it is not compared with the date.

* `CookieDate.layouts`: what a date looks like.
* `CookieDate.seconds?`: the instant that a date means.
-/

namespace ConsoleAccess.Http.CookieDate

def weekdays : List Text :=
  ["Monday", "Tuesday", "Wednesday", "Thursday", "Friday", "Saturday", "Sunday"].map String.toList

def shortWeekdays : List Text := weekdays.map (List.take 3)

def months : List Text :=
  ["Jan", "Feb", "Mar", "Apr", "May", "Jun", "Jul", "Aug", "Sep", "Oct", "Nov", "Dec"].map
    String.toList

/-! ## Parts of a date -/

structure Parts where
  year : Int := 0
  month : Nat := 0
  day : Nat := 0
  hour : Nat := 0
  minute : Nat := 0
  second : Nat := 0
deriving DecidableEq, Repr

inductive Field
  /-- A weekday and a text after it, both or nothing. -/
  | weekday (names : List Text) (after : String)
  | month
  | day
  /-- A day of two digits, or of a blank and one. -/
  | paddedDay
  | year
  | shortYear
  | clock
  | text (t : String)

def name? (names : List Text) (t : Text) : Option (Nat × Text) :=
  (names.findIdx? (·.isPrefixOf t)).bind fun i =>
    (names[i]?).map fun name => (i, t.drop name.length)

def fullYear (year : Int) : Int :=
  if 0 ≤ year && year ≤ 69 then year + 2000
  else if 70 ≤ year && year ≤ 99 then year + 1900
  else year

def year? (t : Text) : Option (Int × Text) :=
  let (negative, t) :=
    match t with
    | '-' :: rest => (true, rest)
    | '+' :: rest => (false, rest)
    | _ => (false, t)
  let digits := (t.takeWhile isDigit).take 4
  let n : Int := digitsValue digits
  if digits.isEmpty then none else some (if negative then -n else n, t.drop digits.length)

def clock? (t : Text) : Option (Nat × Nat × Nat × Text) :=
  match twoDigits? t with
  | some (hour, ':' :: t) =>
    match twoDigits? t with
    | some (minute, ':' :: t) => (twoDigits? t).map fun (second, t) => (hour, minute, second, t)
    | _ => none
  | _ => none

def Field.read? (p : Parts) (t : Text) : Field → Option (Parts × Text)
  | .weekday names after =>
    match name? names t with
    | some (_, rest) => some (p, (after.toList.isPrefixOf? rest).getD t)
    | none => some (p, t)
  | .month => (name? months t).map fun (i, rest) => ({ p with month := i + 1 }, rest)
  | .day => (twoDigits? t).map fun (n, rest) => ({ p with day := n }, rest)
  | .paddedDay =>
    match t with
    | ' ' :: d :: rest => if isDigit d then some ({ p with day := digitValue d }, rest) else none
    | _ => (twoDigits? t).map fun (n, rest) => ({ p with day := n }, rest)
  | .year => (year? t).map fun (n, rest) => ({ p with year := fullYear n }, rest)
  | .shortYear => (twoDigits? t).map fun (n, rest) => ({ p with year := fullYear n }, rest)
  | .clock =>
    (clock? t).map fun (hour, minute, second, rest) => ({ p with hour, minute, second }, rest)
  | .text u => (u.toList.isPrefixOf? t).map fun rest => (p, rest)

/-! ## Layouts -/

def layouts : List (List Field) :=
  [[.weekday shortWeekdays ", ", .day, .text " ", .month, .text " ", .year, .text " ", .clock,
      .text " GMT"],
    [.weekday weekdays ", ", .day, .text "-", .month, .text "-", .shortYear, .text " ", .clock,
      .text " GMT"],
    [.weekday shortWeekdays " ", .month, .text " ", .paddedDay, .text " ", .clock, .text " ",
      .year],
    [.weekday shortWeekdays ", ", .day, .text "-", .month, .text "-", .year, .text " ", .clock,
      .text " GMT"]]

def parts? (t : Text) (layout : List Field) : Option Parts :=
  match layout.foldlM (fun (p, t) field => field.read? p t) (({}, t) : Parts × Text) with
  | some (p, []) => some p
  | _ => none

def Parts.seconds? (p : Parts) : Option Int :=
  if Calendar.hasDay p.year p.month p.day && p.hour ≤ 23 && p.minute ≤ 59 && p.second ≤ 59 then
    let days := Calendar.daysBefore p.year + Calendar.daysBeforeMonth p.year p.month + p.day - 1
    some ((days - Calendar.daysBefore 1970) * 86400 +
      (p.hour * 3600 + p.minute * 60 + p.second : Nat))
  else none

def seconds? (t : Text) : Option Int :=
  layouts.findSome? fun layout => (parts? t layout).bind Parts.seconds?

example : seconds? "Thu, 01 Jan 1970 00:00:10 GMT".toList = some 10 := by decide +kernel
example : seconds? "Wednesday, 21-Oct-15 07:28:00 GMT".toList = some 1445412480 := by
  decide +kernel
example : seconds? "Jan  1 00:01:00 70".toList = some 60 := by decide +kernel
example : seconds? "Thu, 1 Jan 1970 00:00:10 GMT".toList = none := by decide +kernel

end ConsoleAccess.Http.CookieDate
