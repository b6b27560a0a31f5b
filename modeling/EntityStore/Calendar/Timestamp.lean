import EntityStore.Calendar.Date

/-!
# Timestamps

A date with a time of day in microseconds, and an optional distance from universal time. A
timestamp without one is taken as universal time.
-/

namespace EntityStore

def microsPerDay : Nat := 86400000000

theorem microsPerDay_pos : 0 < microsPerDay := by decide

structure Timestamp where
  date : Date
  micros : Nat
  /-- Microseconds ahead of universal time. -/
  offset : Option Int
  micros_lt : micros < microsPerDay
  deriving DecidableEq

namespace Timestamp

instance : Inhabited Timestamp := ⟨⟨Date.first, 0, none, microsPerDay_pos⟩⟩

def ofParts? (date : Date) (hour minute second micro : Nat) (offset : Option Int) :
    Option Timestamp :=
  let micros := ((hour * 60 + minute) * 60 + second) * 1000000 + micro
  if 23 < hour ∨ 59 < minute ∨ 59 < second then none
  else if h : micros < microsPerDay then some ⟨date, micros, offset, h⟩ else none

/-- Microseconds since the start of day 0. -/
def localMicros (t : Timestamp) : Int := (t.date.dayNumber * microsPerDay + t.micros : Nat)

/-- The moment in universal time, in microseconds since the start of day 0. -/
def instant (t : Timestamp) : Int := t.localMicros - t.offset.getD 0

/-- The universal-time stamp of a moment, if its year is a calendar year. -/
def ofInstant? (n : Int) : Option Timestamp :=
  if n < 0 then none
  else
    let micros := n.toNat % microsPerDay
    (Date.ofDayNumber? (n.toNat / microsPerDay)).map fun d =>
      ⟨d, micros, some 0, Nat.mod_lt _ (by decide)⟩

/-- The same moment in universal time; a timestamp without offset already is. -/
def toUtc? (t : Timestamp) : Option Timestamp :=
  match t.offset with
  | none => some { t with offset := some 0 }
  | some 0 => some t
  | some _ => ofInstant? t.instant

def hour (t : Timestamp) : Nat := t.micros / 3600000000
def minute (t : Timestamp) : Nat := t.micros / 60000000 % 60
def second (t : Timestamp) : Nat := t.micros / 1000000 % 60
def micro (t : Timestamp) : Nat := t.micros % 1000000

end Timestamp

end EntityStore
