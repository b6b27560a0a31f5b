/-!
# Calendar dates

Dates of the proleptic Gregorian calendar from year 1 to year 9999, numbered by day: day 1 is the
first of January of year 1, a Monday.
-/

namespace EntityStore

def isLeapYear (y : Nat) : Bool := y % 4 = 0 && (y % 100 ≠ 0 || y % 400 = 0)

def daysInMonth (y m : Nat) : Nat :=
  if m = 2 then if isLeapYear y then 29 else 28
  else if m = 4 ∨ m = 6 ∨ m = 9 ∨ m = 11 then 30 else 31

def isCalendarDay (y m d : Nat) : Bool :=
  1 ≤ y && y ≤ 9999 && 1 ≤ m && m ≤ 12 && 1 ≤ d && d ≤ daysInMonth y m

structure Date where
  year : Nat
  month : Nat
  day : Nat
  onCalendar : isCalendarDay year month day = true
  deriving DecidableEq

namespace Date

def ofParts? (y m d : Nat) : Option Date :=
  if h : isCalendarDay y m d = true then some ⟨y, m, d, h⟩ else none

def first : Date := ⟨1, 1, 1, by decide⟩

instance : Inhabited Date := ⟨first⟩

def daysBeforeYear (y : Nat) : Nat :=
  (y - 1) * 365 + (y - 1) / 4 - (y - 1) / 100 + (y - 1) / 400

def daysBeforeMonth (y m : Nat) : Nat :=
  ((List.range (m - 1)).map fun i => daysInMonth y (i + 1)).foldl (· + ·) 0

/-- The number of the day, counted from the first of January of year 1. -/
def dayNumber (d : Date) : Nat := daysBeforeYear d.year + daysBeforeMonth d.year d.month + d.day

/-- Splits the days left in a year into a month and a day. -/
def monthOfDay (y : Nat) : List Nat → Nat → Nat × Nat
  | [], rest => (12, rest + 1)
  | m :: ms, rest =>
    if rest < daysInMonth y m then (m, rest + 1) else monthOfDay y ms (rest - daysInMonth y m)

def ofDayNumber? (n : Nat) : Option Date :=
  if n = 0 then none
  else
    let n := n - 1
    let n400 := n / 146097
    let r400 := n % 146097
    let n100 := min (r400 / 36524) 3
    let r100 := r400 - n100 * 36524
    let n4 := r100 / 1461
    let r4 := r100 % 1461
    let n1 := min (r4 / 365) 3
    let rest := r4 - n1 * 365
    let y := n400 * 400 + n100 * 100 + n4 * 4 + n1 + 1
    let (m, d) := monthOfDay y (List.range 12 |>.map (· + 1)) rest
    ofParts? y m d

/-- Monday is 1 and Sunday is 7. -/
def isoWeekday (d : Date) : Nat :=
  let r := d.dayNumber % 7
  if r = 0 then 7 else r

/-- The number of the Monday that begins the first week of a year, the week of its first Thursday;
it may be the last day but few of year 0. -/
def firstMonday (y : Nat) : Int :=
  let firstDay : Int := daysBeforeYear y + 1
  let weekday := (firstDay + 6) % 7
  let monday := firstDay - weekday
  if 3 < weekday then monday + 7 else monday

/-- Whether the weeks of a year run up to the 53rd. -/
def hasWeek53 (y : Nat) : Bool :=
  let weekday := (daysBeforeYear y + 7) % 7
  weekday = 3 || (weekday = 2 && isLeapYear y)

/-- The day `d` (1 to 7) of week `w` of a week-numbering year. -/
def ofWeek? (y w d : Nat) : Option Date :=
  if y = 0 ∨ 9999 < y ∨ w = 0 ∨ 53 < w ∨ (w = 53 ∧ ¬ hasWeek53 y) ∨ d = 0 ∨ 7 < d then none
  else
    let n := firstMonday y + ((w - 1) * 7 + (d - 1) : Nat)
    if n < 1 then none else ofDayNumber? n.toNat

end Date

end EntityStore
