import EntityStore.Store.Clock
import Mathlib.Algebra.Order.Group.Int

/-! # Days and moments by number

The day of a number has that number, and the moment of a number of microseconds is that many
microseconds away. So a clock that is moved on tells a later time.
-/
namespace EntityStore

namespace Date

theorem daysBeforeMonth_succ (y m : ℕ) :
    daysBeforeMonth y (m + 1 + 1) = daysBeforeMonth y (m + 1) + daysInMonth y (m + 1) := by
  simp [daysBeforeMonth, List.range_succ]

/-- Splitting off months keeps the count of days. -/
theorem monthOfDay_range' {y rest : ℕ} (k m : ℕ) (hm : m + k = 12)
    (h : rest < daysBeforeMonth y 13 - daysBeforeMonth y (m + 1)) :
    daysBeforeMonth y (monthOfDay y (List.range' (m + 1) k) rest).1 +
      (monthOfDay y (List.range' (m + 1) k) rest).2 = daysBeforeMonth y (m + 1) + rest + 1 := by
  induction k generalizing m rest with
  | zero =>
    obtain rfl : m = 12 := by omega
    simp at h
  | succ k ih =>
    rw [List.range'_succ, monthOfDay]
    split
    · simp only
      omega
    · have hs := daysBeforeMonth_succ y m
      have hrest : rest - daysInMonth y (m + 1) <
          daysBeforeMonth y 13 - daysBeforeMonth y (m + 1 + 1) := by omega
      have := ih (m + 1) (by omega) hrest
      omega

theorem daysInYear (y : ℕ) : daysBeforeMonth y 13 = if isLeapYear y then 366 else 365 := by
  have h : daysBeforeMonth y 13 = daysInMonth y 2 + 337 := by
    simp [daysBeforeMonth, List.range_succ, daysInMonth]
    omega
  rw [h, daysInMonth, if_pos rfl]
  split <;> rfl

theorem dayNumber_of_monthOfDay {y rest n : ℕ} {d : Date}
    (h : ofParts? y (monthOfDay y (List.range' 1 12) rest).1
      (monthOfDay y (List.range' 1 12) rest).2 = some d)
    (hr : rest < if isLeapYear y then 366 else 365)
    (hn : n = daysBeforeYear y + rest + 1) : d.dayNumber = n := by
  have hm := @monthOfDay_range' y rest 12 0 rfl (by
    rw [daysInYear]
    simpa [daysBeforeMonth] using hr)
  rw [Nat.zero_add] at hm
  simp only [ofParts?] at h
  split at h
  · injection h with h
    subst h
    have hz : daysBeforeMonth y 1 = 0 := rfl
    simp only [dayNumber]
    omega
  · cases h

/-- Centuries, groups of four years and years taken off a number of days leave the days of a year. -/
theorem year_of_days {n a b c e rest : ℕ} (ha : a = n / 146097)
    (hb : b = min (n % 146097 / 36524) 3) (hc : c = (n % 146097 - b * 36524) / 1461)
    (he : e = min ((n % 146097 - b * 36524) % 1461 / 365) 3)
    (hr : rest = (n % 146097 - b * 36524) % 1461 - e * 365) :
    rest < (if isLeapYear (a * 400 + b * 100 + c * 4 + e + 1) then 366 else 365) ∧
      n + 1 = daysBeforeYear (a * 400 + b * 100 + c * 4 + e + 1) + rest + 1 := by
  have hb3 : b ≤ 3 := by omega
  have he3 : e ≤ 3 := by omega
  have hc24 : c ≤ 24 := by omega
  have hsum : n = a * 146097 + b * 36524 + c * 1461 + e * 365 + rest := by omega
  refine ⟨?_, ?_⟩
  · split
    · omega
    · rename_i hy
      simp only [isLeapYear, Bool.and_eq_true, Bool.or_eq_true, decide_eq_true_eq, not_and, not_or,
        Decidable.not_not] at hy
      omega
  · have h4 : (a * 400 + b * 100 + c * 4 + e) / 4 = a * 100 + b * 25 + c := by omega
    have h100 : (a * 400 + b * 100 + c * 4 + e) / 100 = a * 4 + b := by omega
    have h400 : (a * 400 + b * 100 + c * 4 + e) / 400 = a := by omega
    rw [daysBeforeYear, Nat.add_sub_cancel, h4, h100, h400]
    omega

/-- The day of a number has that number. -/
theorem dayNumber_ofDayNumber? {n : ℕ} {d : Date} (h : ofDayNumber? n = some d) :
    d.dayNumber = n := by
  unfold ofDayNumber? at h
  split at h
  · cases h
  · rename_i hn
    have hl : (List.range 12 |>.map (· + 1)) = List.range' 1 12 := by decide
    rw [hl] at h
    obtain ⟨hrest, hday⟩ := @year_of_days (n - 1) _ _ _ _ _ rfl rfl rfl rfl rfl
    exact dayNumber_of_monthOfDay h hrest (by omega)

/-! ### The days of the calendar -/

end Date

namespace Timestamp

/-- The moment of a number is that many microseconds away, in universal time. -/
theorem ofInstant?_some {n : ℤ} {t : Timestamp} (h : ofInstant? n = some t) :
    t.instant = n ∧ t.offset = some 0 := by
  unfold ofInstant? at h
  split at h
  · cases h
  · obtain ⟨d, hd, rfl⟩ := Option.map_eq_some_iff.mp h
    refine ⟨?_, rfl⟩
    have hday := Date.dayNumber_ofDayNumber? hd
    simp only [instant, localMicros, hday, Option.getD_some, sub_zero]
    have := Nat.div_add_mod' n.toNat microsPerDay
    omega

end Timestamp

/-! ## Clocks -/

namespace Clock

/-- A clock that was moved on: its time is in universal time, and not earlier. -/
structure Leads (c c' : Clock) : Prop where
  tick : c'.tick = c.tick
  utc : c.now.offset = some 0 → c'.now.offset = some 0
  le : 0 ≤ c.tick → c.now.instant ≤ c'.now.instant

theorem Leads.refl (c : Clock) : Leads c c := ⟨rfl, id, fun _ => le_rfl⟩

theorem Leads.trans {a b c : Clock} (h : Leads a b) (k : Leads b c) : Leads a c :=
  ⟨k.tick.trans h.tick, k.utc ∘ h.utc, fun ht =>
    (h.le ht).trans (k.le (by rw [h.tick]; exact ht))⟩

theorem advance_spec {c c' : Clock} {micros : ℤ} (h : c.advance micros = .ok c') :
    c'.tick = c.tick ∧ c'.now.offset = some 0 ∧ c'.now.instant = c.now.instant + micros := by
  unfold advance at h
  split at h
  · rename_i t ht
    injection h with h
    obtain ⟨hi, ho⟩ := Timestamp.ofInstant?_some ht
    subst h
    exact ⟨rfl, ho, hi⟩
  · cases h

/-- Reading the clock tells its time, and moves it on by one tick. -/
theorem read_spec {c later : Clock} {now : Timestamp} (h : c.read = .ok (now, later)) :
    now = c.now ∧ later.tick = c.tick ∧ later.now.offset = some 0 ∧
      later.now.instant = now.instant + c.tick := by
  unfold read at h
  cases ha : c.advance c.tick with
  | error f =>
    rw [ha] at h
    cases h
  | ok c' =>
    rw [ha] at h
    cases h
    obtain ⟨ht, ho, hi⟩ := advance_spec ha
    exact ⟨rfl, ht, ho, hi⟩

theorem read_leads {c later : Clock} {now : Timestamp} (h : c.read = .ok (now, later)) :
    Leads c later := by
  obtain ⟨rfl, ht, ho, hi⟩ := read_spec h
  exact ⟨ht, fun _ => ho, fun h0 => by omega⟩

@[simp] theorem now_issue (c : Clock) : c.issue.2.now = c.now := by
  unfold issue
  split <;> rfl

@[simp] theorem tick_issue (c : Clock) : c.issue.2.tick = c.tick := by
  unfold issue
  split <;> rfl

theorem issue_leads (c : Clock) : Leads c c.issue.2 := by
  refine ⟨tick_issue c, ?_, ?_⟩
  · rw [now_issue]
    exact id
  · rw [now_issue]
    exact fun _ => le_rfl

end Clock

end EntityStore
