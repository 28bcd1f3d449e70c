/-!
The calendar: lengths of years and months, carried on to the years before the first.
-/

namespace ConsoleAccess.Calendar

def isLeap (year : Int) : Bool := year % 4 == 0 && (year % 100 != 0 || year % 400 == 0)

def daysInMonth (year : Int) (month : Nat) : Nat :=
  match month with
  | 2 => if isLeap year then 29 else 28
  | 4 | 6 | 9 | 11 => 30
  | _ => 31

def daysBefore (year : Int) : Int :=
  let y := year - 1
  365 * y + y / 4 - y / 100 + y / 400

def daysBeforeMonth (year : Int) (month : Nat) : Nat :=
  (List.range (month - 1)).foldr (fun m days => daysInMonth year (m + 1) + days) 0

def hasDay (year : Int) (month day : Nat) : Bool :=
  1 ≤ month && month ≤ 12 && 1 ≤ day && day ≤ daysInMonth year month

example : daysBefore 1971 - daysBefore 1970 = 365 ∧ daysBefore 2001 - daysBefore 2000 = 366 := by
  decide

example : daysBefore 1 = 0 ∧ daysBefore 0 = -366 ∧ daysBefore (-1) = -366 - 365 := by decide

end ConsoleAccess.Calendar
