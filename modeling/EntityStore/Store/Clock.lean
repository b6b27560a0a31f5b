import EntityStore.Calendar.Iso
import EntityStore.Failure
import EntityStore.Number.Binary64

/-!
# Clocks and ids

Where the times and the ids of records come from. Each reading moves the clock on by one tick. Ids
are taken from a list, and counted when the list is used up; the count goes on all the time.
-/

namespace EntityStore

structure Clock where
  now : Timestamp
  /-- Microseconds from one reading to the next. -/
  tick : Int := 1000000
  /-- Ids that are still to be given out. -/
  ids : List String := []
  /-- How many ids were given out. -/
  issued : Nat := 0

namespace Clock

/-- Midnight of the first of January 2024, in universal time. -/
def standard : Clock :=
  ⟨⟨⟨2024, 1, 1, by decide⟩, 0, some 0, microsPerDay_pos⟩, 1000000, [], 0⟩

instance : Inhabited Clock := ⟨standard⟩

def beyondCalendar : Failure := .plain .overflow "date value out of range"

/-- The clock some microseconds later, if that is still on the calendar. -/
def advance (micros : Int) (c : Clock) : Except Failure Clock :=
  match Timestamp.ofInstant? (c.now.instant + micros) with
  | some t => .ok { c with now := t }
  | none => .error beyondCalendar

/-- The time, and the clock one tick later. -/
def read (c : Clock) : Except Failure (Timestamp × Clock) :=
  (c.advance c.tick).map fun later => (c.now, later)

/-- An id that is a number only. -/
def countedId (n : Nat) : String :=
  let digits := String.ofList (Nat.toDigits 16 n)
  "00000000-0000-4000-8000-" ++ String.ofList (List.replicate (12 - digits.length) '0') ++ digits

/-- The next id, and the clock without it. -/
def issue (c : Clock) : String × Clock :=
  match c.ids with
  | id :: rest => (id, { c with ids := rest, issued := c.issued + 1 })
  | [] => (countedId (c.issued + 1), { c with issued := c.issued + 1 })

/-- The database's own time, in whole seconds. -/
def stamp (c : Clock) : String :=
  let t := (c.now.toUtc?).getD c.now
  Iso.dateText t.date ++ " " ++ Iso.padded 2 t.hour ++ ":" ++ Iso.padded 2 t.minute ++ ":"
    ++ Iso.padded 2 t.second

/-- Microseconds in some seconds, rounded to the nearest; a half goes to the even one. -/
def microsOfSeconds? (x : Binary64) : Option Int :=
  x.ratio?.map fun (num, den) =>
    let n := roundHalfEven (num.natAbs * 1000000) den
    if num < 0 then -(n : Int) else n

end Clock

end EntityStore
