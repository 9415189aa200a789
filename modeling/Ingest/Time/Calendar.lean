/-!
# The proleptic Gregorian calendar

Dates are counted by their ordinal: day 1 is the first of January of year 1, and the Gregorian
rules are carried back before their adoption. `ordinal` and `ofOrdinal` convert between
ordinals and (year, month, day); the 400-year cycle of 146097 days makes `ofOrdinal` a matter of
peeling off cycles of 400, 100, 4 and 1 years, then finding the month from an estimate that is
either right or one too large.

`isoWeekDate` reads a date given as an ISO year, week and weekday. Its arithmetic divides
toward zero, which only matters for year 0: there every week lands on an ordinal below 1, and
the date it gives has no valid month.
-/

namespace Ingest.Time

/-- Whether `y` is a leap year: divisible by 4, and by 400 when divisible by 100. -/
def isLeap (y : Int) : Bool := y % 4 == 0 && (y % 100 != 0 || y % 400 == 0)

/-- The number of days of month `m` of year `y`; 0 for a number that is no month. -/
def daysInMonth (y : Int) : Nat → Nat
  | 1 | 3 | 5 | 7 | 8 | 10 | 12 => 31
  | 4 | 6 | 9 | 11 => 30
  | 2 => if isLeap y then 29 else 28
  | _ => 0

/-- The days of a common year before the first of each month, month 0 included. -/
def daysBeforeMonthTable : List Nat := [0, 0, 31, 59, 90, 120, 151, 181, 212, 243, 273, 304, 334]

/-- The days of year `y` before the first of month `m` (1 to 12). -/
def daysBeforeMonth (y : Int) (m : Nat) : Nat :=
  daysBeforeMonthTable.getD m 0 + (if m > 2 && isLeap y then 1 else 0)

/-- The days before the first of January of year `y`. -/
def daysBeforeYear (y : Int) : Int :=
  let p := y - 1
  p * 365 + p / 4 - p / 100 + p / 400

/-- The ordinal of a date. -/
def ordinal (y : Int) (m d : Nat) : Int := daysBeforeYear y + daysBeforeMonth y m + d

/-- The days of 400 years. -/
def daysIn400Years : Nat := 146097

/-- The days of 100 years that do not end a 400-year cycle. -/
def daysIn100Years : Nat := 36524

/-- The days of 4 years that do not end a 100-year cycle. -/
def daysIn4Years : Nat := 1461

/-- The month and day of the `n`-th day (from 0) of a year: the month is estimated as
`(n + 50) / 32`, which is right or one too large. -/
def monthDay (leap : Bool) (n : Nat) : Nat × Nat :=
  let before (m : Nat) := daysBeforeMonthTable.getD m 0 + (if m > 2 && leap then 1 else 0)
  let estimate := (n + 50) / 32
  let m := if before estimate > n then estimate - 1 else estimate
  (m, n - before m + 1)

/-- The date of an ordinal. -/
def ofOrdinal (ord : Int) : Int × Nat × Nat :=
  let n := ord - 1
  let n400 := n / daysIn400Years
  let r := (n % daysIn400Years).toNat
  let n100 := r / daysIn100Years
  let r := r % daysIn100Years
  let n4 := r / daysIn4Years
  let r := r % daysIn4Years
  let n1 := r / 365
  let r := r % 365
  let year := n400 * 400 + 1 + n100 * 100 + n4 * 4 + n1
  if n1 == 4 || n100 == 4 then (year - 1, 12, 31)
  else
    let leap := n1 == 3 && (n4 != 24 || n100 == 3)
    let (m, d) := monthDay leap r
    (year, m, d)

/-- The days before the first of January of `y`, dividing toward zero. -/
def daysBeforeYearTruncating (y : Int) : Int :=
  let p := y - 1
  p * 365 + p.tdiv 4 - p.tdiv 100 + p.tdiv 400

/-- The weekday (Monday 0) of the first of January of `y`, by a remainder that keeps the
sign of the dividend. -/
def firstWeekday (y : Int) : Int := (daysBeforeYearTruncating y + 1 + 6).tmod 7

/-- The ordinal of the Monday of the first ISO week of `y`: the week that holds its first
Thursday. -/
def weekOneMonday (y : Int) : Int :=
  let first := daysBeforeYearTruncating y + 1
  let wd := firstWeekday y
  if wd > 3 then first - wd + 7 else first - wd

/-- Whether ISO year `y` has a 53rd week: it starts on a Thursday, or on a Wednesday in a leap
year. -/
def hasWeek53 (y : Int) : Bool :=
  firstWeekday y == 3 || (firstWeekday y == 2 && isLeap y)

/-- The date of ISO year `y`, week `w`, weekday `d` (Monday 1); none when the week or the
weekday does not exist. A day before the first ordinal gets month 0. -/
def isoWeekDate (y : Int) (w d : Nat) : Option (Int × Nat × Nat) :=
  if (w == 0 || w ≥ 53) && !(w == 53 && hasWeek53 y) then none
  else if d == 0 || d ≥ 8 then none
  else
    let ord := weekOneMonday y + ((w - 1) * 7 + d - 1 : Nat)
    if ord ≥ 1 then some (ofOrdinal ord) else some (1, 0, 1)

end Ingest.Time
