/-!
# Dates

Product headers count days from 1 on the first day of 1970 and seconds from midnight.  Instants
are seconds since then, written as dates of the Gregorian calendar.
-/

namespace WeatherRadar

/-- Seconds since the beginning of 1970. -/
structure Instant where
  seconds : Int
  deriving DecidableEq, Repr

instance : LT Instant := ⟨fun a b => a.seconds < b.seconds⟩

instance : LE Instant := ⟨fun a b => a.seconds ≤ b.seconds⟩

instance (a b : Instant) : Decidable (a < b) := inferInstanceAs (Decidable (a.seconds < b.seconds))

instance (a b : Instant) : Decidable (a ≤ b) := inferInstanceAs (Decidable (a.seconds ≤ b.seconds))

namespace Instant

def secondsPerDay : Nat := 86400

/-- The instant of a numbered day and the seconds after its midnight; day 0 stands for no date. -/
def ofJulian? (day : UInt16) (seconds : UInt32) : Option Instant :=
  if day == 0 then none
  else some ⟨((day.toNat - 1) * secondsPerDay + seconds.toNat : Nat)⟩

/-- The numbered day of an instant and the seconds after its midnight.  Instants before 1970 count
as its beginning, and days beyond the range of numbers as the last one. -/
def toJulian (t : Instant) : UInt16 × UInt32 :=
  let s := t.seconds.toNat
  (UInt16.ofNat (min (s / secondsPerDay + 1) 65535), UInt32.ofNat (s % secondsPerDay))

/-- Year, month and day of a count of days since the beginning of 1970.  Years are taken to begin
in March, so that the leap day comes last. -/
def civil (days : Int) : Int × Nat × Nat :=
  let z := days + 719468
  let era := z.fdiv 146097
  let dayOfEra := (z - era * 146097).toNat
  let yearOfEra := (dayOfEra - dayOfEra / 1460 + dayOfEra / 36524 - dayOfEra / 146096) / 365
  let dayOfYear := dayOfEra - (365 * yearOfEra + yearOfEra / 4 - yearOfEra / 100)
  let month := (5 * dayOfYear + 2) / 153
  let day := dayOfYear - (153 * month + 2) / 5 + 1
  let year : Int := yearOfEra + era * 400
  if month < 10 then (year, month + 3, day) else (year + 1, month - 9, day)

def padded (width : Nat) (n : Nat) : String :=
  let ds := Nat.toDigits 10 n
  String.ofList (List.replicate (width - ds.length) '0' ++ ds)

/-- A year with four digits, or a sign and as many as it takes. -/
def yearText (year : Int) : String :=
  if 0 ≤ year && year ≤ 9999 then padded 4 year.toNat
  else if year < 0 then "-" ++ padded 4 year.natAbs
  else "+" ++ padded 4 year.toNat

/-- Year, month and day, and hour, minute and second. -/
def fields (t : Instant) : (Int × Nat × Nat) × (Nat × Nat × Nat) :=
  let days := t.seconds.fdiv secondsPerDay
  let s := (t.seconds - days * secondsPerDay).toNat
  (civil days, s / 3600, s / 60 % 60, s % 60)

/-- The instant as a date and time of day in universal time, with its offset. -/
def rfc3339 (t : Instant) : String :=
  let ((year, month, day), hour, minute, second) := t.fields
  yearText year ++ "-" ++ padded 2 month ++ "-" ++ padded 2 day ++ "T" ++ padded 2 hour ++ ":" ++
    padded 2 minute ++ ":" ++ padded 2 second ++ "+00:00"

def text (t : Instant) : String :=
  let ((year, month, day), hour, minute, second) := t.fields
  yearText year ++ "-" ++ padded 2 month ++ "-" ++ padded 2 day ++ " " ++ padded 2 hour ++ ":" ++
    padded 2 minute ++ ":" ++ padded 2 second ++ " UTC"

/-- The instant as a date and time in digits, for file names. -/
def stamp (t : Instant) : String :=
  let ((year, month, day), hour, minute, second) := t.fields
  yearText year ++ padded 2 month ++ padded 2 day ++ "_" ++ padded 2 hour ++ padded 2 minute ++
    padded 2 second

end Instant

end WeatherRadar
