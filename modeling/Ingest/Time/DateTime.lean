import Ingest.Time.Calendar
import Ingest.Time.Zone

/-!
# Dates with times

A `DateTime` is a date of years 1 to 9999 with a time of day to the microsecond and, when it is
aware, the `Zone` it is written in. `DateTime.make` checks each field in turn, year first and
microsecond last, and names the first one out of range.

Instants are counted in microseconds from the start of year 1 (`localMicros`, on the clock of
the date's own zone); `utcMicros` removes the offset. `DateTime.ofLocalMicros` turns a count
back into a date, failing when it leaves the years 1 to 9999. `isoformat` writes
`YYYY-MM-DDTHH:MM:SS`, then `.ffffff` when the microseconds are not zero, then the offset of
an aware date.
-/

namespace Ingest.Time

/-- A date and time, with its zone when aware. -/
structure DateTime where
  year : Nat
  month : Nat
  day : Nat
  hour : Nat
  minute : Nat
  second : Nat
  micro : Nat
  zone : Option Zone
deriving DecidableEq, Repr

/-- The last ordinal: that of the 31st of December 9999. -/
def maxOrdinal : Int := 3652059

namespace DateTime

/-- A field out of range. -/
def outOfRange (message : String) : Except Error DateTime := .error (.fieldRange message)

/-- The date and time of the given fields, checked in order. -/
def make (y : Int) (mo d h mi s us : Int) (zone : Option Zone) : Except Error DateTime :=
  if y < 1 || y > 9999 then .error (.yearRange y)
  else if mo < 1 || mo > 12 then outOfRange "month must be in 1..12"
  else if d < 1 || d > daysInMonth y mo.toNat then outOfRange "day is out of range for month"
  else if h < 0 || h > 23 then outOfRange "hour must be in 0..23"
  else if mi < 0 || mi > 59 then outOfRange "minute must be in 0..59"
  else if s < 0 || s > 59 then outOfRange "second must be in 0..59"
  else if us < 0 || us > 999999 then outOfRange "microsecond must be in 0..999999"
  else .ok ⟨y.toNat, mo.toNat, d.toNat, h.toNat, mi.toNat, s.toNat, us.toNat, zone⟩

/-- Microseconds from the start of year 1 to this date and time, on its own clock. -/
def localMicros (t : DateTime) : Int :=
  ((ordinal t.year t.month t.day - 1) * 86400 + t.hour * 3600 + t.minute * 60 + t.second) *
    secondMicros + t.micro

/-- Microseconds from the start of year 1, UTC, to this instant; the clock of a naive date is
taken as UTC. -/
def utcMicros (t : DateTime) : Int :=
  t.localMicros - (t.zone.map (·.offset)).getD 0

/-- The date and time `us` microseconds after the start of year 1, in `zone`. -/
def ofLocalMicros (us : Int) (zone : Option Zone) : Except Error DateTime :=
  let days := us / (dayMicros : Int)
  let rest := (us % (dayMicros : Int)).toNat
  let ord := days + 1
  if ord < 1 || ord > maxOrdinal then .error .dateOverflow
  else
    let (y, m, d) := ofOrdinal ord
    let seconds := rest / secondMicros
    .ok ⟨y.toNat, m, d, seconds / 3600, seconds / 60 % 60, seconds % 60, rest % secondMicros,
      zone⟩

/-- The date and time with the given zone, same clock. -/
def withZone (t : DateTime) (z : Zone) : DateTime := { t with zone := some z }

/-- The ISO 8601 text of the date and time. -/
def isoformat (t : DateTime) : String :=
  padded 4 t.year ++ "-" ++ padded 2 t.month ++ "-" ++ padded 2 t.day ++ "T" ++
    padded 2 t.hour ++ ":" ++ padded 2 t.minute ++ ":" ++ padded 2 t.second ++
    (if t.micro != 0 then "." ++ padded 6 t.micro else "") ++
    (match t.zone with
      | some z => z.offsetText
      | none => "")

/-- The first instant of 1970, UTC. -/
def epoch : DateTime := ⟨1970, 1, 1, 0, 0, 0, 0, some Zone.utc⟩

end DateTime

end Ingest.Time
