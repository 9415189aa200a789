import Ingest.Time.DateTime
import Ingest.Number.Binary64

/-!
# Timestamps

A timestamp counts seconds from the first instant of 1970, UTC, as a double.

`DateTime.ofTimestamp` splits a double into whole seconds and a fraction, scales the fraction
to microseconds in double arithmetic and rounds it half to even, carrying into the seconds
when it reaches a whole second. The seconds must fit a signed 64-bit count (from -2^63, below
2^63), and the year they fall in must fit a 32-bit count from 1900 before the range of years 1
to 9999 is checked.

`DateTime.timestamp` is the exact number of microseconds since 1970 divided by a million and
rounded once, for an aware date; a naive date is read on a UTC clock, and its whole seconds and
its microseconds are rounded to doubles separately and added. Reading a naive date also looks
at the clock one day earlier, which fails in year 0 for a date on the first day of year 1.

`DateTime.ofTai64` adds seconds and a double count of microseconds to 1970 the way a duration
is built: the whole microseconds exactly, the fraction rounded half to even against the total.
The duration's days must fit a 32-bit count and then stay within 999999999; the date must stay
within the years 1 to 9999.
-/

namespace Ingest.Time

open Binary64

/-- The microseconds from the start of year 1 to the first instant of 1970. -/
def epochMicros : Int := DateTime.epoch.localMicros

/-- The smallest count that does not fit 64 signed bits. -/
def timeLimit : Int := Int.pow 2 63

/-- A double rounded to the nearest integer, ties to even. -/
def roundHalfEvenInt (x : Binary64) : Int :=
  let (n, d) := x.ratio
  let q := n / (d : Int)
  let r := n - q * d
  if 2 * r > d then q + 1
  else if 2 * r < d then q
  else if q % 2 == 0 then q else q + 1

namespace DateTime

/-- The date and time, UTC, of `seconds` seconds and `micros` microseconds after 1970. -/
def ofEpochSeconds (seconds : Int) (micros : Nat) : Except Error DateTime :=
  let days := seconds / 86400
  let rest := (seconds % 86400).toNat
  let (y, m, d) := ofOrdinal (days + epoch.localMicros / dayMicros + 1)
  if y - 1900 < -Int.pow 2 31 || y - 1900 ≥ Int.pow 2 31 then .error .clockRange
  else DateTime.make y m d (rest / 3600) (rest / 60 % 60) (rest % 60) micros (some Zone.utc)

/-- The date and time, UTC, of a timestamp. -/
def ofTimestamp (x : Binary64) : Except Error DateTime :=
  if x.isNaN then .error .nanTimestamp
  else if !x.isFinite then .error .timestampRange
  else
    let (whole, fraction) := x.splitFraction
    let scaled := roundHalfEvenInt (mulFinite fraction (ofInt secondMicros))
    let seconds := (whole.trunc?).getD 0
    let (seconds, micros) :=
      if scaled ≥ secondMicros then (seconds + 1, scaled - secondMicros)
      else if scaled < 0 then (seconds - 1, scaled + secondMicros)
      else (seconds, scaled)
    if seconds < -timeLimit || seconds ≥ timeLimit then .error .timestampRange
    else ofEpochSeconds seconds micros.toNat

/-- The sum of two finite doubles, rounded to nearest. -/
def addFinite (x y : Binary64) : Binary64 :=
  let (a, b) := x.ratio
  let (c, d) := y.ratio
  let n := a * d + c * b
  ofRat (n < 0) n.natAbs (b * d)

/-- The timestamp of a date and time; a naive date on the first day of year 1 has none. -/
def timestamp (t : DateTime) : Except Error Binary64 :=
  match t.zone with
  | some _ =>
    let us := t.utcMicros - epochMicros
    .ok (ofRat (us < 0) us.natAbs secondMicros)
  | none =>
    if t.year == 1 && t.month == 1 && t.day == 1 then .error (.yearRange 0)
    else
      let seconds := (t.localMicros - t.micro) / secondMicros - epochMicros / secondMicros
      .ok (addFinite (ofInt seconds) (ofRat false t.micro secondMicros))

/-- The date and time, UTC, `seconds` seconds and `micros` microseconds (a double) after
1970. -/
def ofTai64 (seconds : Int) (micros : Binary64) : Except Error DateTime :=
  let (whole, fraction) := micros.splitFraction
  let base := seconds * secondMicros + (whole.trunc?).getD 0
  let (n, d) := fraction.ratio
  let extra : Int :=
    if 2 * n > d then 1
    else if 2 * n < d then 0
    else if base % 2 == 0 then 0 else 1
  let total := base + extra
  let days := total / (dayMicros : Int)
  if days < -Int.pow 2 31 || days ≥ Int.pow 2 31 then .error .dayCountOverflow
  else if days.natAbs > 999999999 then .error (.dayRange days)
  else ofLocalMicros (epochMicros + total) (some Zone.utc)

end DateTime

end Ingest.Time
