import Ingest.Time.DateTime

/-!
# Reading ISO 8601 dates and times

`DateTime.ofIso` reads a date, then optionally one separator character and a time with an
optional offset. The date takes the forms `YYYY-MM-DD`, `YYYYMMDD`, `YYYY-Www`, `YYYYWww`,
`YYYY-Www-D` and `YYYYWwwD`; where the date ends, and so where the separator stands, is told
from the characters at positions 4, 5, 8 and 10. The time is `HH[:MM[:SS[.f]]]` or the same
without colons, the fraction cut to six digits and allowed a comma; the offset is `Z` or a sign
and a time of the same shape. Reading a position past the end gives a NUL character, so the end
of the text and a NUL in it are told apart only by position.

Every failure to read gives the same error, which quotes the text. A text that reads is then
checked: the offset first (it must stay within a day), then each field of the date and time.
An offset of zero hours, minutes and seconds is UTC, whatever its fraction.
-/

namespace Ingest.Time

namespace Iso

/-- The character at `i`; NUL past the end. -/
def charAt (cs : Array Char) (i : Nat) : Char := cs.getD i '\x00'

/-- Whether `c` is an ASCII digit. -/
def isDigit (c : Char) : Bool := '0' ≤ c && c ≤ '9'

/-- The value of the `n` digits from `i`, and the position after them; none unless all are
digits. -/
def digitsAt (cs : Array Char) (i : Nat) : Nat → Option (Nat × Nat)
  | 0 => some (0, i)
  | n + 1 => do
    let c := charAt cs i
    if isDigit c then
      let (v, j) ← digitsAt cs (i + 1) n
      some ((c.toNat - '0'.toNat) * Nat.pow 10 n + v, j)
    else none

/-- The first position from `i` that holds no digit; `fuel` bounds the search. -/
def skipDigits (cs : Array Char) (i : Nat) : Nat → Nat
  | 0 => i
  | fuel + 1 => if isDigit (charAt cs i) then skipDigits cs (i + 1) fuel else i

/-- The first position from `i` holding a character after `i` that is not a digit, up to the
end. -/
def firstNonDigitFrom (cs : Array Char) (i : Nat) : Nat :=
  let j := skipDigits cs i (cs.size - i)
  Nat.min j cs.size

/-- Where the date ends and the separator stands; none for a text that cannot hold a date. -/
def separatorAt (cs : Array Char) : Option Nat :=
  let len := cs.size
  if len == 7 then some 7
  else if charAt cs 4 == '-' then
    if charAt cs 5 == 'W' then
      if len > 8 && charAt cs 8 == '-' then
        if len == 9 then none
        else if len > 10 && isDigit (charAt cs 10) then some 8
        else some 10
      else some 8
    else some 10
  else if charAt cs 4 == 'W' then
    let idx := firstNonDigitFrom cs 7
    if idx < 9 then some idx
    else if idx % 2 == 0 then some 7 else some 8
  else some 8

/-- The year, month and day of the date that ends at `stop`. -/
def readDate (cs : Array Char) (stop : Nat) : Option (Int × Nat × Nat) := do
  let (year, p) ← digitsAt cs 0 4
  let dash := charAt cs p == '-'
  let p := if dash then p + 1 else p
  if charAt cs p == 'W' then
    let (week, p) ← digitsAt cs (p + 1) 2
    let day ← if p < stop then do
        if dash && charAt cs p != '-' then none
        let (d, _) ← digitsAt cs (if dash then p + 1 else p) 1
        some d
      else some 1
    isoWeekDate year week day
  else
    let (month, p) ← digitsAt cs p 2
    if dash && charAt cs p != '-' then none
    let (day, _) ← digitsAt cs (if dash then p + 1 else p) 2
    some (year, month, day)

/-- Where the scan of hours, minutes and seconds stopped: at the end of its part (with whether
a character other than NUL ended it), or before a fraction. -/
inductive ClockScan where
  | finished (fields : List Nat) (more : Bool)
  | fraction (fields : List Nat) (p : Nat)

/-- Scan up to three two-digit fields from `p`, the part ending at `stop`; the first separator
decides whether colons separate the fields. -/
def scanClock (cs : Array Char) (stop : Nat) :
    Nat → Nat → Bool → List Nat → Option ClockScan
  | 0, p, _, fields => some (.fraction fields p)
  | n + 1, p, colons, fields => do
    let (v, q) ← digitsAt cs p 2
    let c := charAt cs q
    let q := q + 1
    let colons := if fields.isEmpty then c == ':' else colons
    let fields := fields ++ [v]
    if q ≥ stop then some (.finished fields (c != '\x00'))
    else if colons && c == ':' then scanClock cs stop n q colons fields
    else if c == '.' || c == ',' then some (.fraction fields q)
    else if !colons then scanClock cs stop n (q - 1) colons fields
    else none

/-- The microseconds of a fraction from `p` to `stop`, its digits past the sixth ignored, and
whether a character other than NUL follows them. -/
def readFraction (cs : Array Char) (stop p : Nat) : Option (Nat × Bool) := do
  let n := Nat.min (stop - p) 6
  let (v, q) ← digitsAt cs p n
  let q := skipDigits cs q cs.size
  some (v * Nat.pow 10 (6 - n), charAt cs q != '\x00')

/-- A time of day from `start` to `stop`: hours, minutes, seconds, microseconds, and whether
something other than NUL follows. -/
def readClock (cs : Array Char) (start stop : Nat) :
    Option ((Nat × Nat × Nat × Nat) × Bool) := do
  let (fields, micro, more) ← match ← scanClock cs stop 3 start false [] with
    | .finished fields more => some (fields, 0, more)
    | .fraction fields p => do
      let (micro, more) ← readFraction cs stop p
      some (fields, micro, more)
  some ((fields.getD 0 0, fields.getD 1 0, fields.getD 2 0, micro), more)

/-- The first position holding `Z`, `+` or `-`, or the end. -/
def zonePosition (cs : Array Char) : Nat :=
  (List.range cs.size).find? (fun i => let c := charAt cs i; c == 'Z' || c == '+' || c == '-')
    |>.getD cs.size

/-- A time with its offset, if any, as whole seconds and microseconds. -/
def readTime (cs : Array Char) : Option ((Nat × Nat × Nat × Nat) × Option (Int × Int)) := do
  if cs.size == 0 then none
  let zp := zonePosition cs
  let (clock, more) ← readClock cs 0 zp
  if zp == cs.size then
    if more then none else some (clock, none)
  else if charAt cs zp == 'Z' then
    if charAt cs (zp + 1) != '\x00' then none else some (clock, some (0, 0))
  else
    let sign : Int := if charAt cs zp == '-' then -1 else 1
    let ((h, m, s, us), more) ← readClock cs (zp + 1) cs.size
    if more then none
    else some (clock, some (sign * (h * 3600 + m * 60 + s), sign * us))

end Iso

open Iso in
/-- The date and time an ISO 8601 text spells. -/
def DateTime.ofIso (s : String) : Except Error DateTime :=
  let cs := s.toList.toArray
  let bad : Except Error DateTime := .error (.isoFormat (Text.quote s))
  if cs.size < 7 then bad
  else
    match separatorAt cs with
    | none => bad
    | some sep =>
      match readDate cs sep with
      | none => bad
      | some (y, m, d) =>
        let time := if cs.size > sep then readTime (cs.extract (sep + 1) cs.size)
          else some ((0, 0, 0, 0), none)
        match time with
        | none => bad
        | some ((h, mi, sec, us), offset) =>
          let zone : Except Error (Option Zone) := match offset with
            | none => .ok none
            | some (0, _) => .ok (some Zone.utc)
            | some (seconds, micros) =>
              (Zone.make (seconds * secondMicros + micros)).map some
          match zone with
          | .error e => .error e
          | .ok zone => DateTime.make y m d h mi sec us zone

end Ingest.Time
