/-! Calendar time of log records. The clock gives a count of milliseconds since the start
of 1970 in universal time, and it is kept in a binary fraction of seconds, which
shows in moments that are far away. Only the years from 1 to 9999 can be shown. -/

namespace CommandShell.Log

inductive MomentError where
  /-- The seconds are too many for a binary fraction. -/
  | noFraction
  /-- The seconds lie beyond the limits of the system's clock, which has sixty-four bits. The
  fraction cannot tell the largest of its counts from the one that follows. -/
  | noClock
  /-- The year does not fit the thirty-two bits of the system's calendar. -/
  | noCalendar
  | noYear (year : Int)
  deriving DecidableEq, Repr

namespace MomentError

def message : MomentError → String
  | noFraction => "integer division result too large for a float"
  | noClock => "timestamp out of range for platform time_t"
  | noCalendar => "[Errno 75] Value too large for defined data type"
  | noYear year => "year " ++ toString year ++ " is out of range"

end MomentError

/-- Divide and round to the nearest whole number, a half to the even neighbour. -/
def roundDivide (numerator divisor : Nat) : Nat :=
  let quotient := numerator / divisor
  let twice := 2 * (numerator % divisor)
  if twice < divisor || (twice = divisor && quotient % 2 = 0) then quotient else quotient + 1

/-- The microseconds of a count of milliseconds. Seconds are kept with fifty-three
binary digits, so that large counts lose their last decimals or even whole seconds. -/
def microseconds (milliseconds : Nat) : Nat :=
  let exponent := Nat.log2 (max 1 (milliseconds / 1000))
  let scale := 1 <<< (52 - exponent)
  let step := 1 <<< (exponent - 52)
  let seconds := roundDivide (milliseconds * scale) (1000 * step) * step
  seconds / scale * 1000000 + roundDivide (seconds % scale * 1000000) scale

def signedMicroseconds (milliseconds : Int) : Int :=
  if 0 ≤ milliseconds then microseconds milliseconds.toNat
  else -(microseconds (-milliseconds).toNat)

structure Date where
  year : Int
  month : Nat
  day : Nat
  deriving DecidableEq, Repr

/-- The date of a day counted from the start of 1970. Years are reckoned from March,
which puts the leap day at their end, and repeat after four centuries. -/
def Date.ofDays (days : Int) : Date :=
  let shifted := days + 719468
  let era := shifted.ediv 146097
  let dayOfEra := (shifted - era * 146097).toNat
  let yearOfEra := (dayOfEra - dayOfEra / 1460 + dayOfEra / 36524 - dayOfEra / 146096) / 365
  let dayOfYear := dayOfEra - (365 * yearOfEra + yearOfEra / 4 - yearOfEra / 100)
  let fromMarch := (5 * dayOfYear + 2) / 153
  let month := if fromMarch < 10 then fromMarch + 3 else fromMarch - 9
  { year := yearOfEra + era * 400 + if month ≤ 2 then 1 else 0
    month
    day := dayOfYear - (153 * fromMarch + 2) / 5 + 1 }

def padded (width value : Nat) : String :=
  let digits := toString value
  String.ofList (List.replicate (width - digits.length) '0') ++ digits

/-- The date of a day counted from the start of 1970. The calendar counts years from 1900
with thirty-two bits, and a year that overflows when 1900 is added is a wrong one. The
day before is looked up too, for changes of the clock, so that the first day of the
first year has no date. -/
def dateOfDay (day : Int) : Except MomentError Date :=
  let date := Date.ofDays day
  let year := date.year.bmod (1 <<< 32)
  let before := (Date.ofDays (day - 1)).year
  let range : Nat := 1 <<< 31
  if date.year - 1900 < -range || range ≤ date.year - 1900 then .error .noCalendar
  else if year < 1 || 9999 < year then .error (.noYear year)
  else if before < 1 then .error (.noYear before)
  else .ok date

/-- A date and a time of day. By default it is the start of 1970. -/
structure Moment where
  date : Date := ⟨1970, 1, 1⟩
  seconds : Nat := 0
  milliseconds : Nat := 0
  deriving DecidableEq, Repr

namespace Moment

/-- The moment of a count of milliseconds. Smaller parts are cut off. -/
def ofMilliseconds (count : Int) : Except MomentError Moment := do
  let microseconds := signedMicroseconds count
  let seconds := microseconds.ediv 1000000
  if 1 <<< 1024 * 1000000 ≤ microseconds.natAbs then throw .noFraction
  let range : Nat := 1 <<< 63
  if seconds < -range || range < seconds then throw .noClock
  let date ← dateOfDay (seconds.ediv 86400)
  return { date
           seconds := (seconds.emod 86400).toNat
           milliseconds := (microseconds.emod 1000000).toNat / 1000 }

def stamp (moment : Moment) : String :=
  toString moment.date.year ++ "-" ++ padded 2 moment.date.month ++ "-" ++
    padded 2 moment.date.day ++ " " ++ padded 2 (moment.seconds / 3600) ++ ":" ++
    padded 2 (moment.seconds / 60 % 60) ++ ":" ++ padded 2 (moment.seconds % 60) ++ "." ++
    padded 3 moment.milliseconds

example : (ofMilliseconds 951782400123).toOption.map stamp = some "2000-02-29 00:00:00.123" := by
  decide

end Moment

end CommandShell.Log
