/-!
Points in time by the calendar: a Gregorian date and a time of day in universal time, down to the
nanosecond. A leap second is the second `60` of its minute. A local time is brought to universal
time by shifting whole minutes, which carries into the date by one day at most.
-/

namespace Registrar

/-- A day of the Gregorian calendar; the year 0 goes before the year 1. -/
structure Date where
  year : Int
  month : Nat
  day : Nat
  deriving DecidableEq, Repr

/-- A date with a time of day in universal time. -/
structure Instant where
  date : Date
  hour : Nat
  minute : Nat
  second : Nat
  nanosecond : Nat
  deriving DecidableEq, Repr

namespace Date

def isLeapYear (year : Int) : Bool :=
  year % 4 == 0 && (year % 100 != 0 || year % 400 == 0)

def daysInMonth (year : Int) (month : Nat) : Nat :=
  if month = 2 then (if isLeapYear year then 29 else 28)
  else if month = 4 ∨ month = 6 ∨ month = 9 ∨ month = 11 then 30
  else 31

/-- The first and the last year that can be told. -/
def firstYear : Int := -262143
def lastYear : Int := 262142

/-- The date is a day of the calendar, within the years that can be told. -/
def Valid (d : Date) : Prop :=
  firstYear ≤ d.year ∧ d.year ≤ lastYear ∧ 1 ≤ d.month ∧ d.month ≤ 12 ∧
    1 ≤ d.day ∧ d.day ≤ daysInMonth d.year d.month

instance (d : Date) : Decidable d.Valid := by unfold Valid; infer_instance

def next (d : Date) : Date :=
  if d.day < daysInMonth d.year d.month then { d with day := d.day + 1 }
  else if d.month < 12 then ⟨d.year, d.month + 1, 1⟩
  else ⟨d.year + 1, 1, 1⟩

def previous (d : Date) : Date :=
  if 1 < d.day then { d with day := d.day - 1 }
  else if 1 < d.month then ⟨d.year, d.month - 1, daysInMonth d.year (d.month - 1)⟩
  else ⟨d.year - 1, 12, 31⟩

end Date

namespace Instant

/-- The fields name a moment: a day of the calendar and a time of day, where only the second
after the last of its minute can be a leap second. -/
def Valid (t : Instant) : Prop :=
  t.date.Valid ∧ t.hour < 24 ∧ t.minute < 60 ∧ t.second ≤ 60 ∧ t.nanosecond < 1000000000

instance (t : Instant) : Decidable t.Valid := by unfold Valid; infer_instance

/-- The moment at which a clock `ahead` minutes ahead of universal time shows `t`. -/
def shiftBack (t : Instant) (ahead : Int) : Instant :=
  let minutes := 60 * (t.hour : Int) + t.minute - ahead
  let date := if minutes < 0 then t.date.previous
    else if minutes < 1440 then t.date
    else t.date.next
  let ofDay := (minutes % 1440).toNat
  { t with date, hour := ofDay / 60, minute := ofDay % 60 }

@[simp] theorem shiftBack_second (t : Instant) (ahead : Int) :
    (t.shiftBack ahead).second = t.second := rfl

@[simp] theorem shiftBack_nanosecond (t : Instant) (ahead : Int) :
    (t.shiftBack ahead).nanosecond = t.nanosecond := rfl

theorem shiftBack_zero {t : Instant} (hh : t.hour < 24) (hm : t.minute < 60) :
    t.shiftBack 0 = t := by
  have h1 : ¬ 60 * (t.hour : Int) + t.minute - 0 < 0 := by omega
  have h2 : 60 * (t.hour : Int) + t.minute - 0 < 1440 := by omega
  have h3 : ((60 * (t.hour : Int) + t.minute - 0) % 1440).toNat = 60 * t.hour + t.minute := by
    omega
  have h4 : (60 * t.hour + t.minute) / 60 = t.hour := by omega
  have h5 : (60 * t.hour + t.minute) % 60 = t.minute := by omega
  simp only [shiftBack, h1, h2, h3, h4, h5, if_true, if_false]

end Instant

end Registrar
