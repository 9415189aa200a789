import Ingest.Error
import Ingest.Text.Printable

/-!
# Durations and fixed time zones

A duration is a number of microseconds. Its normal form splits it into days (rounded down),
seconds within the day and microseconds within the second, and `Duration.repr` writes that form
the way a duration prints itself, with only the parts that are not zero.

A `Zone` is a fixed offset from UTC, strictly less than a day either way. It is named `UTC`
when the offset is zero and `UTC±HH:MM` otherwise, with seconds and microseconds added only
when they are not zero; the offset written after a time (`±HH:MM`) follows the same rule.
-/

namespace Ingest.Time

/-- Microseconds in a second. -/
def secondMicros : Nat := 1000000

/-- Microseconds in a day. -/
def dayMicros : Nat := 86400 * secondMicros

namespace Duration

/-- The days, seconds and microseconds of a duration in normal form. -/
def parts (us : Int) : Int × Nat × Nat :=
  let days := us / (dayMicros : Int)
  let rest := (us % (dayMicros : Int)).toNat
  (days, rest / secondMicros, rest % secondMicros)

/-- How a duration of `us` microseconds prints. -/
def repr (us : Int) : String :=
  let (d, s, u) := parts us
  let fields := (if d != 0 then ["days=" ++ toString d] else []) ++
    (if s != 0 then ["seconds=" ++ toString s] else []) ++
    (if u != 0 then ["microseconds=" ++ toString u] else [])
  "datetime.timedelta(" ++ (if fields.isEmpty then "0" else ", ".intercalate fields) ++ ")"

end Duration

/-- `n` in decimal, left-padded with zeros to `width` digits. -/
def padded (width n : Nat) : String :=
  let ds := Nat.toDigits 10 n
  String.ofList (List.replicate (width - ds.length) '0' ++ ds)

/-- A fixed offset from UTC, in microseconds. -/
structure Zone where
  offset : Int
deriving DecidableEq, Repr

namespace Zone

/-- UTC itself. -/
def utc : Zone := ⟨0⟩

/-- The zone of an offset in microseconds, which must lie strictly between minus one day and
one day. -/
def make (offset : Int) : Except Error Zone :=
  if -(dayMicros : Int) < offset && offset < dayMicros then .ok ⟨offset⟩
  else .error (.offsetRange (Duration.repr offset))

/-- The zone of an offset in minutes. -/
def ofMinutes (minutes : Int) : Except Error Zone := make (minutes * 60 * secondMicros)

/-- The offset as a sign and `HH:MM`, then `:SS` and `.ffffff` when they are not zero. -/
def offsetText (z : Zone) : String :=
  let sign := if z.offset < 0 then "-" else "+"
  let us := z.offset.natAbs
  let seconds := us / secondMicros
  let micros := us % secondMicros
  let base := sign ++ padded 2 (seconds / 3600) ++ ":" ++ padded 2 (seconds / 60 % 60)
  if micros != 0 then base ++ ":" ++ padded 2 (seconds % 60) ++ "." ++ padded 6 micros
  else if seconds % 60 != 0 then base ++ ":" ++ padded 2 (seconds % 60)
  else base

/-- The name of the zone: `UTC`, or `UTC` followed by its offset. -/
def name (z : Zone) : String := if z.offset == 0 then "UTC" else "UTC" ++ z.offsetText

end Zone

end Ingest.Time
