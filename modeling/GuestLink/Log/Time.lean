/-!
# Times of day

Seconds since the start of 1970 as a date and a time in UTC, by the Gregorian calendar.  The clock
counts seconds in words of 64 bits; the calendar counts years from 1900 in words of 32 bits, and
years can be written if they fit into such a word themselves.
-/

namespace GuestLink.Log.Time

/-- A day of the Gregorian calendar. -/
structure Date where
  year : Int
  month : Nat
  day : Nat
  deriving DecidableEq, Repr

/-- The date `days` days after 1 January 1970.  Years are counted from March on, so that a leap day
is the last of its year, in eras of 400 years. -/
def dateOfDays (days : Int) : Date :=
  let shifted := days + 719468
  let era := shifted.fdiv 146097
  let dayOfEra := (shifted - era * 146097).toNat
  let yearOfEra := (dayOfEra - dayOfEra / 1460 + dayOfEra / 36524 - dayOfEra / 146096) / 365
  let dayOfYear := dayOfEra - (365 * yearOfEra + yearOfEra / 4 - yearOfEra / 100)
  let shiftedMonth := (5 * dayOfYear + 2) / 153
  let month := if shiftedMonth < 10 then shiftedMonth + 3 else shiftedMonth - 9
  { year := yearOfEra + era * 400 + (if month ≤ 2 then 1 else 0)
    month
    day := dayOfYear - (153 * shiftedMonth + 2) / 5 + 1 }

/-- A number with at least two digits. -/
def twoDigits (n : Nat) : String := (if n < 10 then "0" else "") ++ toString n

/-- Why a time cannot be written. -/
inductive Fault where
  /-- The clock does not reach it. -/
  | beyondClock
  /-- The calendar does not reach it. -/
  | beyondCalendar
  /-- Its year is too great to be written. -/
  | yearTooLarge
  deriving DecidableEq, Repr

/-- The fault in words. -/
def Fault.message : Fault → String
  | .beyondClock => "timestamp out of range for platform time_t"
  | .beyondCalendar => "[Errno 75] Value too large for defined data type"
  | .yearTooLarge => "signed integer is greater than maximum"

/-- What stands in the way of writing a time, if anything does. -/
def fault? (seconds : Int) : Option Fault :=
  let year := (dateOfDays (seconds.fdiv 86400)).year
  if seconds < -0x8000000000000000 ∨ 0x8000000000000000 ≤ seconds then some .beyondClock
  else if year - 1900 < -0x80000000 ∨ 0x80000000 ≤ year - 1900 then some .beyondCalendar
  else if 0x80000000 ≤ year then some .yearTooLarge
  else none

/-- The date and time at which `seconds` seconds have passed since the start of 1970. -/
def text (seconds : Int) : Except Fault String :=
  let date := dateOfDays (seconds.fdiv 86400)
  let rest := (seconds.fmod 86400).toNat
  match fault? seconds with
  | some fault => .error fault
  | none => .ok <|
    toString date.year ++ "-" ++ twoDigits date.month ++ "-" ++ twoDigits date.day ++ " " ++
      twoDigits (rest / 3600) ++ ":" ++ twoDigits (rest / 60 % 60) ++ ":" ++ twoDigits (rest % 60)

end GuestLink.Log.Time
