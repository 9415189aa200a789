/-!
# Binary floating-point numbers

A `Binary64` is an IEEE 754 double held as its 64-bit word. Every operation here works on the
exact value the word denotes, `± significand * 2 ^ exponent`, in integer arithmetic, and
rounds the exact result once, to nearest with ties to even. That is the rounding of every
correctly rounded operation, so reading decimal text, converting integers, multiplying, and
narrowing to single precision all give the IEEE results.

Main definitions:

* `FloatFormat.round`: the rounding of a positive rational into a format (binary64, binary32);
* `Binary64.ofRat`, `Binary64.ofInt`, `Binary64.ofDecimal`: correctly rounded conversions;
* `Binary64.toBinary32`: the value rounded to single precision and back;
* `Binary64.trunc?`, `Binary64.compareInt`, `Binary64.compare?`: exact readings of a value.
-/

namespace Ingest

/-- A binary floating-point format: the significand width (hidden bit included) and the
exponent range of normal numbers. -/
structure FloatFormat where
  precision : Nat
  emin : Int
  emax : Int

/-- IEEE 754 double precision. -/
def FloatFormat.binary64 : FloatFormat := ⟨53, -1022, 1023⟩

/-- IEEE 754 single precision. -/
def FloatFormat.binary32 : FloatFormat := ⟨24, -126, 127⟩

/-- A rounded magnitude: too large for the format, or `significand * 2 ^ exponent`. -/
inductive Rounded where
  | overflow
  | finite (significand : Nat) (exponent : Int)
deriving DecidableEq, Repr

/-- `n / d` rounded to the nearest integer, a tie going to the even neighbour. -/
def roundHalfEven (n d : Nat) : Nat :=
  let q := n / d
  let r := n % d
  if 2 * r < d then q
  else if d < 2 * r then q + 1
  else if q % 2 = 0 then q else q + 1

/-- `n * 2 ^ k` for an integer `k`, as a numerator and denominator. -/
def scaleByTwo (n : Nat) (k : Int) : Nat × Nat :=
  if 0 ≤ k then (n * Nat.pow 2 k.toNat, 1) else (n, Nat.pow 2 (-k).toNat)

/-- `⌊log₂ (n / d)⌋` for positive `n` and `d`. -/
def floorLog2 (n d : Nat) : Int :=
  let t : Int := (n.log2 : Int) - d.log2
  -- `n / d` lies strictly between `2 ^ (t - 1)` and `2 ^ (t + 1)`
  let (a, b) := scaleByTwo d t
  if n * b ≥ a then t else t - 1

/-- The positive rational `n / d` rounded into the format `f`, to nearest with ties to even.
Below the normal range the last significand bit keeps the weight `2 ^ (emin - precision + 1)`,
which yields the subnormal numbers. -/
def FloatFormat.round (f : FloatFormat) (n d : Nat) : Rounded :=
  if n = 0 ∨ d = 0 then .finite 0 (f.emin - f.precision + 1)
  else
    let e := max (floorLog2 n d) f.emin
    let q := e - (f.precision - 1 : Nat)
    let (num, den) := if 0 ≤ q then (n, d * Nat.pow 2 q.toNat) else (n * Nat.pow 2 (-q).toNat, d)
    let m := roundHalfEven num den
    -- `m` is at most `2 ^ precision`; the top case carries into the next binade
    let (m, q) := if m = Nat.pow 2 f.precision then (m / 2, q + 1) else (m, q)
    if q + (f.precision - 1 : Nat) > f.emax then .overflow else .finite m q

/-- An IEEE 754 double, held as its 64-bit word. -/
structure Binary64 where
  bits : UInt64
deriving DecidableEq, Inhabited, Repr

namespace Binary64

/-- The sign bit: set for negative numbers, negative zero and negative infinity. -/
def sign (x : Binary64) : Bool := x.bits.toNat / Nat.pow 2 63 = 1

/-- The 11-bit biased exponent field. -/
def biasedExponent (x : Binary64) : Nat := x.bits.toNat / Nat.pow 2 52 % Nat.pow 2 11

/-- The 52-bit fraction field. -/
def fraction (x : Binary64) : Nat := x.bits.toNat % Nat.pow 2 52

/-- Whether `x` is not a number. -/
def isNaN (x : Binary64) : Bool := x.biasedExponent = 2047 && x.fraction ≠ 0

/-- Whether `x` is an infinity. -/
def isInfinite (x : Binary64) : Bool := x.biasedExponent = 2047 && x.fraction = 0

/-- Whether `x` is a finite number (zero included). -/
def isFinite (x : Binary64) : Bool := x.biasedExponent ≠ 2047

/-- The significand of a finite `x`: `|x| = significand * 2 ^ exponent`. -/
def significand (x : Binary64) : Nat :=
  if x.biasedExponent = 0 then x.fraction else x.fraction + Nat.pow 2 52

/-- The exponent of the last significand bit of a finite `x`. -/
def exponent (x : Binary64) : Int :=
  if x.biasedExponent = 0 then -1074 else (x.biasedExponent : Int) - 1075

/-- Whether `x` is a zero of either sign. -/
def isZero (x : Binary64) : Bool := x.isFinite && x.significand = 0

/-- The quiet not-a-number with a clear sign bit. -/
def nan : Binary64 := ⟨0x7FF8000000000000⟩

/-- The infinity of the given sign. -/
def infinity (neg : Bool) : Binary64 :=
  ⟨if neg then 0xFFF0000000000000 else 0x7FF0000000000000⟩

/-- The zero of the given sign. -/
def zero (neg : Bool) : Binary64 := ⟨if neg then 0x8000000000000000 else 0⟩

/-- `x` with its sign bit flipped. -/
def neg (x : Binary64) : Binary64 := ⟨x.bits ^^^ 0x8000000000000000⟩

/-- The double `± m * 2 ^ e`, for a magnitude that binary64 holds exactly; the significand is
shifted up to the hidden bit, or down to the subnormal exponent. -/
def encode (neg : Bool) (m : Nat) (e : Int) : Binary64 :=
  let magnitude : Nat :=
    if m = 0 then 0
    else
      -- the exponent that puts the leading bit of `m` at the hidden-bit position
      let e' := max (e + m.log2 - 52) (-1074)
      let m' := if e' ≤ e then m * Nat.pow 2 (e - e').toNat else m / Nat.pow 2 (e' - e).toNat
      if m' < Nat.pow 2 52 then m' else (e' + 1075).toNat * Nat.pow 2 52 + (m' - Nat.pow 2 52)
  ⟨UInt64.ofNat ((if neg then Nat.pow 2 63 else 0) + magnitude)⟩

/-- The double for a rounded magnitude and a sign. -/
def ofRounded (neg : Bool) : Rounded → Binary64
  | .overflow => infinity neg
  | .finite m e => encode neg m e

/-- The rational `± n / d` rounded to the nearest double. -/
def ofRat (neg : Bool) (n d : Nat) : Binary64 :=
  ofRounded neg (FloatFormat.binary64.round n d)

/-- The integer `i` rounded to the nearest double (an infinity when it is too large). -/
def ofInt (i : Int) : Binary64 := ofRat (i < 0) i.natAbs 1

/-- Number of decimal digits of `n` (one for zero). -/
def decimalLength (n : Nat) : Nat := (Nat.toDigits 10 n).length

/-- The decimal `± digits * 10 ^ exp10` rounded to the nearest double. Magnitudes beyond
`10 ^ 330` overflow and those below `10 ^ -330` round to zero, without building their powers. -/
def ofDecimal (neg : Bool) (digits : Nat) (exp10 : Int) : Binary64 :=
  if digits = 0 then zero neg
  else
    let size : Int := (decimalLength digits : Int) + exp10
    if size > 330 then infinity neg
    else if size < -330 then zero neg
    else if 0 ≤ exp10 then ofRat neg (digits * Nat.pow 10 exp10.toNat) 1
    else ofRat neg digits (Nat.pow 10 (-exp10).toNat)

/-- The exact magnitude of a finite `x` as a numerator and a power-of-two denominator. -/
def magnitude (x : Binary64) : Nat × Nat := scaleByTwo x.significand x.exponent

/-- `x` rounded to single precision and widened back: what storing it as a 32-bit float
keeps. Overflow gives an infinity. -/
def toBinary32 (x : Binary64) : Binary64 :=
  if x.isFinite then
    let (n, d) := x.magnitude
    ofRounded x.sign (FloatFormat.binary32.round n d)
  else x

/-- The integer part of a finite `x`, rounded toward zero; none for infinities and NaN. -/
def trunc? (x : Binary64) : Option Int :=
  if x.isFinite then
    let (n, d) := x.magnitude
    let q : Int := (n / d : Nat)
    some (if x.sign then -q else q)
  else none

/-- The exact value of a finite `x` as a signed numerator over a positive denominator. -/
def ratio (x : Binary64) : Int × Nat :=
  let (n, d) := x.magnitude
  (if x.sign then -(n : Int) else n, d)

/-- How the finite `x` compares with the integer `i`; none when `x` is NaN. -/
def compareInt (x : Binary64) (i : Int) : Option Ordering :=
  if x.isNaN then none
  else if x.isInfinite then some (if x.sign then .lt else .gt)
  else
    let (n, d) := x.ratio
    some (Ord.compare n (i * d))

/-- How `x` compares with `y` as real numbers; none when either is NaN. Zeros of both signs
are equal. -/
def compare? (x y : Binary64) : Option Ordering :=
  if x.isNaN || y.isNaN then none
  else if x.isInfinite || y.isInfinite then
    let rank (z : Binary64) : Int := if z.isInfinite then (if z.sign then -1 else 1) else 0
    some (Ord.compare (rank x) (rank y))
  else
    let (a, b) := x.ratio
    let (c, d) := y.ratio
    some (Ord.compare (a * d) (c * b))

/-- The product of two finite doubles, rounded to nearest. -/
def mulFinite (x y : Binary64) : Binary64 :=
  let (a, b) := x.magnitude
  let (c, d) := y.magnitude
  ofRat (x.sign != y.sign) (a * c) (b * d)

/-- The integral part of a finite `x` and its fractional part, both exact and with the sign
of `x`. -/
def splitFraction (x : Binary64) : Binary64 × Binary64 :=
  let (n, d) := x.magnitude
  (ofRat x.sign (n / d) 1, ofRat x.sign (n % d) d)

end Binary64

end Ingest
