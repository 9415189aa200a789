import Ingest.Number.Shortest
import Ingest.Text.Chars

/-!
# Writing and reading numbers as text

Doubles are written with their shortest digits (`shortestDigits`) laid out by a
`FloatStyle`: positional notation for decimal exponents from `-4` to `15`, a `.0` on integral
values, otherwise one digit, a point, the rest and an exponent with a sign and at least two
digits (`1e+16`, `1.5e-07`).

Reading follows the number grammar of text fields: blanks around the number, digits of any
script, single underscores between digits, an optional sign, and for doubles the names `inf`,
`infinity` and `nan` in any letter case. A double is read exactly and rounded once.
-/

namespace Ingest

/-- The layout decisions of written doubles. -/
structure FloatStyle where
  /-- Least decimal exponent written positionally. -/
  minPositional : Int
  /-- Greatest decimal exponent written positionally. -/
  maxPositional : Int
  /-- Whether an integral positional value ends in `.0`. -/
  pointZero : Bool
  /-- Least number of exponent digits. -/
  exponentDigits : Nat
  nanText : String
  infinityText : String

/-- The style of written doubles: positional from `1e-4` below `1e16`, `.0` kept, exponents
signed with two digits at least. -/
def FloatStyle.standard : FloatStyle := ⟨-4, 15, true, 2, "nan", "inf"⟩

/-- `n` zeros. -/
def zeros (n : Nat) : String := String.ofList (List.replicate n '0')

/-- The digits as characters. -/
def digitText (ds : List Nat) : String := String.ofList (ds.map fun d => Char.ofNat (48 + d))

/-- Positional layout of `0.ds * 10 ^ point`. -/
def positional (ds : List Nat) (point : Int) (pointZero : Bool) : String :=
  let n := ds.length
  if point ≤ 0 then "0." ++ zeros (-point).toNat ++ digitText ds
  else if n ≤ point.toNat then
    digitText ds ++ zeros (point.toNat - n) ++ (if pointZero then ".0" else "")
  else digitText (ds.take point.toNat) ++ "." ++ digitText (ds.drop point.toNat)

/-- Exponential layout of `0.ds * 10 ^ point`: `d.ddd` and the exponent `point - 1`. -/
def exponential (ds : List Nat) (point : Int) (expDigits : Nat) : String :=
  let lead := digitText (ds.take 1)
  let rest := digitText (ds.drop 1)
  let x := point - 1
  let body := Nat.toDigits 10 x.natAbs
  let body := String.ofList (List.replicate (expDigits - body.length) '0' ++ body)
  lead ++ (if rest.isEmpty then "" else "." ++ rest) ++ "e" ++ (if x < 0 then "-" else "+") ++ body

/-- The text of a double in the style `s`. -/
def FloatStyle.render (s : FloatStyle) (x : Binary64) : String :=
  if x.isNaN then s.nanText
  else
    let sign := if x.sign then "-" else ""
    if x.isInfinite then sign ++ s.infinityText
    else if x.significand = 0 then sign ++ (if s.pointZero then "0.0" else "0")
    else
      let d := shortestDigits x.significand x.exponent
      let x10 := d.point - 1
      if s.minPositional ≤ x10 ∧ x10 ≤ s.maxPositional then
        sign ++ positional d.digits d.point s.pointZero
      else sign ++ exponential d.digits d.point s.exponentDigits

/-- The standard text of a double (`0.1`, `1e+16`, `-0.0`, `nan`). -/
def Binary64.toText (x : Binary64) : String := FloatStyle.standard.render x

/-! ## Reading -/

/-- A character as the number grammar sees it: a digit of any script becomes its ASCII digit,
a blank outside ASCII becomes a space, other characters stay. -/
def asciiFold (c : Char) : Char :=
  if c.toNat < 128 then c
  else if Text.isBlank c then ' '
  else match Text.decimalValue? c with
    | some v => Char.ofNat (48 + v)
    | none => c

/-- Whether `c` is an ASCII digit. -/
def isAsciiDigit (c : Char) : Bool := '0' ≤ c && c ≤ '9'

/-- The characters with their ASCII blanks removed at both ends. -/
def trimAscii (cs : List Char) : List Char :=
  ((cs.dropWhile Text.isAsciiBlank).reverse.dropWhile Text.isAsciiBlank).reverse

/-- The characters without their underscores, if every underscore stands between two digits. -/
def dropSeparators : List Char → Option (List Char)
  | [] => some []
  | c :: rest =>
    if c == '_' then none
    else go c rest |>.map (c :: ·)
where
  go (prev : Char) : List Char → Option (List Char)
    | [] => some []
    | '_' :: d :: rest =>
      if isAsciiDigit prev && isAsciiDigit d then (go d rest).map (d :: ·) else none
    | ['_'] => none
    | d :: rest => (go d rest).map (d :: ·)

/-- The value of a run of ASCII digits. -/
def digitsValue (ds : List Char) : Nat := ds.foldl (fun n c => n * 10 + (c.toNat - 48)) 0

/-- Whether `cs` spells `word` in any ASCII letter case. -/
def matchesWord (cs : List Char) (word : String) : Bool :=
  cs.length == word.length && (cs.zip word.toList).all fun (a, b) => a.toLower == b

/-- A decimal literal `digits[.digits][e[±]digits]` with at least one mantissa digit, as its
digits and the power of ten that scales them. -/
def readDecimal (cs : List Char) : Option (Nat × Int) :=
  let intPart := cs.takeWhile isAsciiDigit
  let rest := cs.dropWhile isAsciiDigit
  let (fracPart, rest) := match rest with
    | '.' :: r => (r.takeWhile isAsciiDigit, r.dropWhile isAsciiDigit)
    | r => ([], r)
  if intPart.isEmpty && fracPart.isEmpty then none
  else
    let scale : Option Int := match rest with
      | [] => some 0
      | e :: r =>
        if e == 'e' || e == 'E' then
          let (neg, r) := match r with
            | '-' :: r' => (true, r')
            | '+' :: r' => (false, r')
            | r' => (false, r')
          if !r.isEmpty && r.all isAsciiDigit then
            some (if neg then -(digitsValue r : Int) else digitsValue r)
          else none
        else none
    scale.map fun x => (digitsValue (intPart ++ fracPart), x - fracPart.length)

/-- A double read from text: optional sign, then a decimal literal or `inf`, `infinity`,
`nan` in any letter case; blanks allowed around, single underscores between digits. -/
def readFloat? (s : String) : Option Binary64 := do
  let cs := trimAscii (s.toList.map asciiFold)
  let cs ← dropSeparators cs
  let (neg, body) := match cs with
    | '-' :: r => (true, r)
    | '+' :: r => (false, r)
    | r => (false, r)
  if matchesWord body "inf" || matchesWord body "infinity" then
    pure (Binary64.infinity neg)
  else if matchesWord body "nan" then
    pure (if neg then Binary64.nan.neg else Binary64.nan)
  else
    let (digits, x) ← readDecimal body
    pure (Binary64.ofDecimal neg digits x)

/-- How reading an integer can fail. -/
inductive IntTextError where
  /-- The text is not an integer literal. -/
  | invalid
  /-- The literal has more digits than the given limit. -/
  | tooManyDigits (limit count : Nat)
deriving DecidableEq, Repr

/-- Greatest number of digits of an integer read from text. -/
def maxIntDigits : Nat := 4300

/-- An integer read from text: blanks around, an optional sign, decimal digits of any script
with single underscores between them. -/
def readInt (s : String) : Except IntTextError Int := do
  let cs := (s.toList.map asciiFold).dropWhile Text.isAsciiBlank
  let (neg, body) := match cs with
    | '-' :: r => (true, r)
    | '+' :: r => (false, r)
    | r => (false, r)
  let literal := body.takeWhile fun c => isAsciiDigit c || c == '_'
  let rest := body.dropWhile fun c => isAsciiDigit c || c == '_'
  let count := (literal.filter isAsciiDigit).length
  match dropSeparators literal with
  | none => throw .invalid
  | some ds =>
    if count > maxIntDigits then throw (.tooManyDigits maxIntDigits count)
    else if ds.isEmpty || !(rest.all Text.isAsciiBlank) then throw .invalid
    else
      let n : Int := digitsValue ds
      pure (if neg then -n else n)

end Ingest
