import Ingest.Number.Binary64

/-!
# Shortest decimal digits of a double

The digits that name a finite positive double are the fewest that read back as it; of those
of that length, the ones nearest to its exact value. A decimal reads back as the double when
it lies in the interval of reals that round to it: half a unit of the last place on either
side, a quarter below when the significand is a power of two past the lowest binade, the ends
included exactly when the significand is even (ties go to the even significand).

`shortestDigits` tries 1, 2, … up to 17 significant digits; on the grid of one length it takes
the point nearest to the value among those inside the interval.
-/

namespace Ingest

/-- The least integer `c` with `c * b ≥ a` (or `c * b > a` when `strict`). -/
def ceilDivFrom (a b : Nat) (strict : Bool) : Nat :=
  if strict then a / b + 1 else (a + b - 1) / b

/-- The greatest integer `c` with `c * b ≤ a` (or `c * b < a` when `strict`), floored at 0. -/
def floorDivTo (a b : Nat) (strict : Bool) : Int :=
  if strict then (if a % b = 0 then (a / b : Int) - 1 else a / b) else a / b

/-- `⌊log₁₀ (n / d)⌋` for positive `n` and `d`. -/
def floorLog10 (n d : Nat) : Int :=
  let t : Int := (Binary64.decimalLength n : Int) - Binary64.decimalLength d
  let (a, b) := if 0 ≤ t then (d * Nat.pow 10 t.toNat, 1) else (d, Nat.pow 10 (-t).toNat)
  if n * b ≥ a then t else t - 1

/-- The decimal digits of `n`, most significant first. -/
def digitsOf (n : Nat) : List Nat := (Nat.toDigits 10 n).map (fun c => c.toNat - '0'.toNat)

/-- `c` written as `c' * 10 ^ z` with `c'` not a multiple of ten (for positive `c`). -/
def stripTens (c : Nat) (fuel : Nat) : Nat × Nat :=
  match fuel with
  | 0 => (c, 0)
  | fuel + 1 =>
    if c ≠ 0 ∧ c % 10 = 0 then
      let (c', z) := stripTens (c / 10) fuel
      (c', z + 1)
    else (c, 0)

/-- A decimal in scientific form: `0.d₁d₂…dₙ * 10 ^ point`, `d₁ ≠ 0`, `dₙ ≠ 0`. -/
structure DecimalDigits where
  digits : List Nat
  point : Int
deriving DecidableEq, Repr

/-- The point of the grid `10 ^ k` nearest to `v = V / D` among those in the interval
`[L / D, H / D]` (ends excluded unless `closed`), if there is one. -/
def gridPoint? (V L H D : Nat) (closed : Bool) (k : Int) : Option Nat :=
  let (num, den) :=
    if 0 ≤ k then ((1 : Nat), D * Nat.pow 10 k.toNat) else (Nat.pow 10 (-k).toNat, D)
  let lo := ceilDivFrom (L * num) den (!closed)
  let hi := floorDivTo (H * num) den (!closed)
  if (lo : Int) ≤ hi then
    let near := roundHalfEven (V * num) den
    some (if near < lo then lo else if (near : Int) > hi then hi.toNat else near)
  else none

/-- The shortest digits that read back as the double `m * 2 ^ e` (`m > 0`), trying lengths
`p` from `1` on. -/
def shortestFrom (V L H D : Nat) (closed : Bool) (top : Int) : Nat → Nat → Option DecimalDigits
  | 0, _ => none
  | fuel + 1, p =>
    let k := top - p + 1
    match gridPoint? V L H D closed k with
    | some c =>
      let (c', z) := stripTens c (Binary64.decimalLength c)
      some ⟨digitsOf c', k + z + Binary64.decimalLength c'⟩
    | none => shortestFrom V L H D closed top fuel (p + 1)

/-- The shortest decimal digits of the positive magnitude `m * 2 ^ e` of a double (`m > 0`). -/
def shortestDigits (m : Nat) (e : Int) : DecimalDigits :=
  -- the value and the ends of its rounding interval, in units of 2 ^ (e - 2)
  let lowerGap : Nat := if m = Nat.pow 2 52 ∧ e > -1074 then 1 else 2
  let (V, D) := scaleByTwo (4 * m) (e - 2)
  let (L, _) := scaleByTwo (4 * m - lowerGap) (e - 2)
  let (H, _) := scaleByTwo (4 * m + 2) (e - 2)
  let closed := m % 2 = 0
  let top := floorLog10 V D
  (shortestFrom V L H D closed top 18 1).getD ⟨digitsOf m, 0⟩

end Ingest
