import Ingest.Proofs.Tai64Read

/-!
# Counts of seconds and milliseconds since 1970

The UNIX formatter writes a date as the whole seconds of its timestamp and reads a number as a
timestamp; the UNIX_MS formatter reads a number as a whole count of milliseconds, divides it by
a thousand into a timestamp, and writes the timestamp times a thousand. Both writers cut toward
zero, not down, and the millisecond writer multiplies in double arithmetic:

* within `2 ^ 34` seconds of 1970, the UNIX formatter writes an aware date as its count of
  microseconds since 1970 divided by a million and cut toward zero, so half a second before
  1970 is written as 0 (`Formatter.format_unix_of_zone`);
* every whole number of seconds whose instant lies in the years 1 to 9999 reads as that instant,
  in UTC, and is written back as itself (`Formatter.parse_unix_int`,
  `Formatter.format_unix_whole`);
* within `2 ^ 32` seconds of 1970, a whole number of milliseconds reads as that instant exactly:
  the double nearest to it in seconds keeps its fraction within half a microsecond
  (`Formatter.parse_unixMs_int`, `roundHalfEvenInt_micros`);
* the millisecond writer rounds the timestamp to a double, multiplies it by a thousand into a
  double and cuts that toward zero. The two roundings keep the product below the next whole
  millisecond, but on a whole millisecond it may land just below it, and then the count
  written is one closer to zero: 1001 milliseconds are read and written back as 1000
  (`Formatter.format_unixMs_of_zone`, `thousandths_of_error`).

The main statement is `Formatter.unix_codecs_cut_toward_zero`.
-/

namespace Ingest

namespace Binary64

/-! ## Doubles of integers -/

theorem isInfinite_eq_false {x : Binary64} (h : x.isFinite = true) : x.isInfinite = false := by
  simp only [isFinite, ne_eq, decide_eq_true_eq] at h
  simp [isInfinite, h]

theorem isNaN_eq_false {x : Binary64} (h : x.isFinite = true) : x.isNaN = false := by
  simp only [isFinite, ne_eq, decide_eq_true_eq] at h
  simp [isNaN, h]

theorem ofInt_eq (n : Int) : ofInt n = ofRat (decide (n < 0)) (n.natAbs * 1) 1 := by
  rw [Nat.mul_one]
  rfl

theorem isFinite_ofInt {n : Int} (hn : n.natAbs < 2 ^ 51) : (ofInt n).isFinite = true := by
  rw [ofInt_eq]
  rcases Nat.eq_zero_or_pos n.natAbs with h | h
  · rw [h, Nat.zero_mul]
    exact (ofRat_zero _ 1).2.1
  · exact (magnitude_ofRat_mul _ h (by decide) hn).2.1

/-- An integer below `2 ^ 51` is held exactly, and cuts back to itself. -/
theorem trunc?_ofInt {n : Int} (hn : n.natAbs < 2 ^ 51) : (ofInt n).trunc? = some n := by
  rw [ofInt_eq, trunc?_ofRat_mul _ (by decide) hn]
  congr 1
  simp only [decide_eq_true_eq]
  split <;> omega

/-- A positive integer below `2 ^ 51` is the magnitude `c * 2 ^ k / 2 ^ k`. -/
theorem magnitude_ofInt_nat {c : Nat} (hc : 0 < c) (hc₂ : c < 2 ^ 51) :
    (ofInt c).sign = false ∧ ∃ k, (ofInt c).magnitude = (c * 2 ^ k, 2 ^ k) := by
  have hpos : ¬ (c : Int) < 0 := by omega
  have h : ofInt c = ofRat false (c * 1) 1 := by simp [ofInt_eq, hpos]
  rw [h]
  obtain ⟨hs, -, hmag⟩ := magnitude_ofRat_mul false (d := 1) hc (by decide) hc₂
  exact ⟨hs, hmag⟩

theorem mulFinite_eq {x y : Binary64} {a b c d : Nat} (hx : x.magnitude = (a, b))
    (hy : y.magnitude = (c, d)) : mulFinite x y = ofRat (x.sign != y.sign) (a * c) (b * d) := by
  simp [mulFinite, hx, hy]

theorem ratio_eq {x : Binary64} {a b : Nat} (h : x.magnitude = (a, b)) :
    x.ratio = (if x.sign then -(a : Int) else a, b) := by
  simp [ratio, h]

theorem magnitude_snd_pos (x : Binary64) : 0 < x.magnitude.2 := by
  unfold magnitude scaleByTwo
  split
  · exact Nat.one_pos
  · exact Nat.pow_pos (by decide)

theorem ratio_snd_pos (x : Binary64) : 0 < x.ratio.2 := by
  have hpos := magnitude_snd_pos x
  rcases hm : x.magnitude with ⟨n, d⟩
  rw [hm] at hpos
  simpa [ratio_eq hm] using hpos

/-- `d` is at most `n * 2 ^ 1022`, the bound of the normal range, without the power being
evaluated. -/
theorem le_mul_two_pow_1022 {d n : Nat} (h : d ≤ 2 ^ 72 * n) : d ≤ n * 2 ^ 1022 :=
  calc d ≤ 2 ^ 72 * n := h
    _ ≤ 2 ^ 1022 * n := Nat.mul_le_mul_right n (by omega)
    _ = n * 2 ^ 1022 := Nat.mul_comm _ _

end Binary64

namespace Time

open Binary64

/-! ## Rounding a double to the nearest integer -/

/-- `roundHalfEvenInt` rounds the exact value of a double to the nearest integer, ties to
even. -/
theorem isRoundHalfEven_roundHalfEvenInt (x : Binary64) :
    IsRoundHalfEven x.ratio.1 x.ratio.2 (roundHalfEvenInt x) := by
  have hD := ratio_snd_pos x
  unfold roundHalfEvenInt
  generalize x.ratio = p at hD ⊢
  obtain ⟨N, D⟩ := p
  dsimp only at hD ⊢
  -- the quotient rounded down, and the remainder as a natural number
  have hdiv := Int.mul_ediv_add_emod N D
  have hr₀ := Int.emod_nonneg N (Int.natCast_ne_zero.2 (Nat.pos_iff_ne_zero.1 hD))
  have hr₁ := Int.emod_lt_of_pos N (Int.natCast_pos.2 hD)
  obtain ⟨r, hr⟩ : ∃ r : Nat, N % D = r := ⟨(N % D).toNat, (Int.toNat_of_nonneg hr₀).symm⟩
  generalize N / D = q at hdiv ⊢
  rw [hr] at hdiv hr₁
  have hx : N = q * D + r := by linarith
  have hrem : N - q * D = r := by rw [hx]; ring
  have hlt : r < D := by exact_mod_cast hr₁
  rw [hrem]
  split_ifs with h₁ h₂ h₃
  · exact isRoundHalfEven_of_rem hx hlt (.inr (.inl ⟨by exact_mod_cast h₁, rfl⟩))
  · simpa using isRoundHalfEven_of_rem (e := 0) hx hlt (.inl ⟨by exact_mod_cast h₂, rfl⟩)
  · -- a tie goes to the even one of the two
    simp only [beq_iff_eq] at h₃
    simpa using isRoundHalfEven_of_rem (e := 0) hx hlt
      (.inr (.inr ⟨by omega, .inl rfl, by simpa using h₃⟩))
  · simp only [beq_iff_eq] at h₃
    exact isRoundHalfEven_of_rem hx hlt (.inr (.inr ⟨by omega, .inr rfl, by omega⟩))

theorem roundHalfEvenInt_eq {x : Binary64} {m : Int}
    (h : IsRoundHalfEven x.ratio.1 x.ratio.2 m) : roundHalfEvenInt x = m :=
  (isRoundHalfEven_roundHalfEvenInt x).unique (ratio_snd_pos x) h

/-- A zero fraction scales to zero microseconds. -/
theorem roundHalfEvenInt_mulFinite_zero (neg : Bool) (d : Nat) (y : Binary64) :
    roundHalfEvenInt (mulFinite (ofRat neg 0 d) y) = 0 := by
  obtain ⟨-, -, den, -, hmag⟩ := ofRat_zero neg d
  rcases hy : y.magnitude with ⟨c, e⟩
  rw [mulFinite_eq hmag hy, Nat.zero_mul]
  obtain ⟨-, -, den', hden', hmag'⟩ := ofRat_zero ((ofRat neg 0 d).sign != y.sign) (den * e)
  apply roundHalfEvenInt_eq
  rw [ratio_eq hmag']
  left
  split <;> simpa using hden'

/-! ## Two roundings of a count of microseconds -/

/-- The arithmetic of reading milliseconds. A fraction `r / 1000` is held as `c / U` within half
a unit of its last place, `U` at least `2 ^ 20`, and `c' / b'` is that fraction; `g / V`, with
`V` above `2 ^ 31`, is within half a unit of its last place of a million times it. Then `g / V`
is within half a unit of `1000 * r`. -/
theorem micros_of_error {c c' b' g r U V : Nat} (hU : 2 ^ 20 ≤ U) (hV : 2 ^ 31 < V)
    (hb' : 0 < b') (hcb : c' * U = c * b')
    (e₁ : 2 * r * U ≤ 2 * c * 1000 + 1000) (e₂ : 2 * c * 1000 ≤ 2 * r * U + 1000)
    (f₁ : 2 * (c' * 1000000) * V ≤ 2 * g * b' + b')
    (f₂ : 2 * g * b' ≤ 2 * (c' * 1000000) * V + b') :
    2000 * r * V < 2 * g + V ∧ 2 * g < 2000 * r * V + V := by
  -- the two errors, each at most half a unit, stay below half a unit together
  have hUV : U + 1000000 * V < U * V := by
    have h₁ : 2 ^ 20 * V ≤ U * V := Nat.mul_le_mul_right V hU
    have h₂ : 2 ^ 31 * U ≤ U * V := by
      rw [Nat.mul_comm U V]
      exact Nat.mul_le_mul_right U hV.le
    have : 1 ≤ U := le_trans (by norm_num) hU
    linarith
  have hkey := Nat.mul_lt_mul_of_pos_left hUV hb'
  have hcbV : c * b' * V = c' * U * V := by rw [hcb]
  constructor
  · apply Nat.lt_of_mul_lt_mul_right (a := b' * U)
    have h₁ := Nat.mul_le_mul_right (1000 * b' * V) e₁
    have h₂ := Nat.mul_le_mul_right U f₁
    linarith
  · apply Nat.lt_of_mul_lt_mul_right (a := b' * U)
    have h₁ := Nat.mul_le_mul_right (1000 * b' * V) e₂
    have h₂ := Nat.mul_le_mul_right U f₂
    linarith

/-- The arithmetic of writing milliseconds. `a / U` is within half a unit of its last place of
`N / 10 ^ 6`, and `b / V` within half a unit of its last place of `1000 * a / U`; with last
places of at most `2 ^ -20` and `2 ^ -10`, the integer part of `b / V` is that of `N / 1000`, or
one less when `N / 1000` is whole. -/
theorem thousandths_of_error {N a b U V : Nat} (hU : 2 ^ 20 ≤ U) (hV : 2 ^ 10 ≤ V)
    (e₁ : 2 * N * U ≤ 2 * a * 1000000 + 1000000) (e₂ : 2 * a * 1000000 ≤ 2 * N * U + 1000000)
    (f₁ : 2000 * a * V ≤ 2 * b * U + U) (f₂ : 2 * b * U ≤ 2000 * a * V + U) :
    b / V = N / 1000 ∨ (N % 1000 = 0 ∧ b / V + 1 = N / 1000) := by
  have hN := Nat.div_add_mod N 1000
  have hr := Nat.mod_lt N (show 1000 > 0 by norm_num)
  generalize N / 1000 = q at hN ⊢
  generalize N % 1000 = r at hN hr ⊢
  subst hN
  have hUV : 2 ^ 20 * V ≤ U * V := Nat.mul_le_mul_right V hU
  have hVU : U * 2 ^ 10 ≤ U * V := Nat.mul_le_mul_left U hV
  have he₁ := Nat.mul_le_mul_right V e₁
  have he₂ := Nat.mul_le_mul_right V e₂
  have hV₀ : 0 < V := lt_of_lt_of_le (by norm_num) hV
  -- `b / V` stays below the next integer
  have hhi : b < (q + 1) * V := by
    by_contra h
    have h' := Nat.mul_le_mul_right U (Nat.le_of_not_lt h)
    have hr' : r * (U * V) ≤ 999 * (U * V) := Nat.mul_le_mul_right _ (by omega)
    linarith
  -- and reaches `q` unless `N / 1000` is whole, when it reaches `q - 1`
  have hlo : 0 < r → q * V ≤ b := by
    intro hr₀
    by_contra h
    have h' := Nat.mul_le_mul_right U (Nat.succ_le_of_lt (Nat.lt_of_not_le h))
    have hr' : 1 * (U * V) ≤ r * (U * V) := Nat.mul_le_mul_right _ hr₀
    linarith
  have hlo₀ : q * V ≤ b + V := by
    by_contra h
    have h' := Nat.mul_le_mul_right U (Nat.succ_le_of_lt (Nat.lt_of_not_le h))
    linarith [Nat.zero_le (r * (U * V))]
  rcases Nat.eq_zero_or_pos r with rfl | hr₀
  · by_cases hq : q * V ≤ b
    · exact .inl (Nat.div_eq_of_lt_le hq hhi)
    · have hq₀ : q ≠ 0 := by
        rintro rfl
        simp at hq
      obtain ⟨p, rfl⟩ : ∃ p, q = p + 1 := ⟨q - 1, by omega⟩
      refine .inr ⟨by simp, ?_⟩
      rw [Nat.div_eq_of_lt_le (by rw [Nat.add_mul] at hlo₀; omega) (Nat.lt_of_not_le hq)]
  · exact .inl (Nat.div_eq_of_lt_le (hlo hr₀) hhi)

/-- On a whole second the two roundings are exact: `N / 10 ^ 6` is `a / U` and a thousand times
it is `b / V`. -/
theorem thousandths_of_error_exact {N a b U V : Nat} (hU : 0 < U) (hV : 0 < V)
    (e₁ : 2 * N * U ≤ 2 * a * 1000000 + 1000000) (e₂ : 2 * a * 1000000 ≤ 2 * N * U + 1000000)
    (f₁ : 2000 * a * V ≤ 2 * b * U + U) (f₂ : 2 * b * U ≤ 2000 * a * V + U)
    (hN : N % 1000000 = 0) : b / V = N / 1000 := by
  obtain ⟨s, rfl⟩ : ∃ s, N = 1000000 * s :=
    ⟨N / 1000000, (Nat.mul_div_cancel' (Nat.dvd_of_mod_eq_zero hN)).symm⟩
  have ha : a = s * U := by
    have h₁ : 1000000 * (2 * (s * U)) ≤ 1000000 * (2 * a + 1) := by linarith
    have h₂ : 1000000 * (2 * a) ≤ 1000000 * (2 * (s * U) + 1) := by linarith
    have := Nat.le_of_mul_le_mul_left h₁ (by norm_num)
    have := Nat.le_of_mul_le_mul_left h₂ (by norm_num)
    omega
  subst ha
  have hb : b = 1000 * s * V := by
    have h₁ : U * (2 * (1000 * s * V)) ≤ U * (2 * b + 1) := by linarith
    have h₂ : U * (2 * b) ≤ U * (2 * (1000 * s * V) + 1) := by linarith
    have := Nat.le_of_mul_le_mul_left h₁ hU
    have := Nat.le_of_mul_le_mul_left h₂ hU
    omega
  rw [hb, Nat.mul_div_cancel _ hV]
  omega

/-! ## The microseconds of a fraction -/

/-- The fraction `c / 2 ^ j` of a timestamp, within half a unit of its last place of
`r / 1000`, with `j` at least 20, scales to exactly `1000 * r` microseconds, with its sign. -/
theorem roundHalfEvenInt_micros (neg : Bool) {c j r : Nat} (hj : 20 ≤ j) (hj₂ : j ≤ 72)
    (hcj : c < 2 ^ j) (hc₂ : c < 2 ^ 53)
    (e₁ : 2 * r * 2 ^ j ≤ 2 * c * 1000 + 1000) (e₂ : 2 * c * 1000 ≤ 2 * r * 2 ^ j + 1000) :
    roundHalfEvenInt (mulFinite (ofRat neg c (2 ^ j)) (ofInt secondMicros)) =
      if neg then -((1000 * r : Nat) : Int) else ((1000 * r : Nat) : Int) := by
  have hU : 2 ^ 20 ≤ 2 ^ j := Nat.pow_le_pow_right (by decide) hj
  rcases Nat.eq_zero_or_pos c with rfl | hc
  · -- no fraction, no remainder
    have hr : r = 0 := by
      rw [Nat.mul_assoc] at e₁
      rcases Nat.eq_zero_or_pos r with h | h
      · exact h
      · have := Nat.le_mul_of_pos_left (2 ^ j) h
        omega
    subst hr
    rw [roundHalfEvenInt_mulFinite_zero]
    simp
  obtain ⟨hs, c', b', hmag, hb', hcb⟩ := magnitude_ofRat_pow_two neg hc hcj hc₂ (by omega)
  obtain ⟨hs₆, k, hmag₆⟩ := magnitude_ofInt_nat (c := secondMicros) (by decide) (by decide)
  have hc' : 0 < c' := by
    rcases Nat.eq_zero_or_pos c' with h | h
    · rw [h, Nat.zero_mul] at hcb
      exact absurd hcb.symm (Nat.mul_ne_zero (by omega) (by omega))
    · exact h
  have hcb' : c' < b' := by
    apply Nat.lt_of_mul_lt_mul_right (a := 2 ^ j)
    rw [hcb, Nat.mul_comm b']
    exact Nat.mul_lt_mul_of_pos_right hcj hb'
  rw [mulFinite_eq hmag hmag₆, hs, hs₆]
  have hb₂ : b' ≤ 2 ^ j * c' := by
    calc b' ≤ c * b' := Nat.le_mul_of_pos_left _ hc
      _ = 2 ^ j * c' := by rw [← hcb, Nat.mul_comm]
  -- the product `c' * 10 ^ 6 / b'` is rounded once more
  obtain ⟨hs', -, g, i, hmag', -, f₁, f₂, hunit⟩ :=
    magnitude_ofRat_bound (neg != false) (n := c' * (secondMicros * 2 ^ k)) (d := b' * 2 ^ k)
      (Nat.mul_pos hc' (Nat.mul_pos (by decide) (Nat.two_pow_pos k)))
      (Nat.mul_pos hb' (Nat.two_pow_pos k))
      (le_mul_two_pow_1022 (calc b' * 2 ^ k ≤ 2 ^ j * c' * 2 ^ k := Nat.mul_le_mul_right _ hb₂
        _ ≤ 2 ^ 72 * c' * 2 ^ k :=
          Nat.mul_le_mul_right _ (Nat.mul_le_mul_right _ (Nat.pow_le_pow_right (by decide) hj₂))
        _ ≤ 2 ^ 72 * (c' * (secondMicros * 2 ^ k)) := by
          rw [show 2 ^ 72 * (c' * (secondMicros * 2 ^ k)) = 2 ^ 72 * c' * 2 ^ k * secondMicros
            by ring]
          exact Nat.le_mul_of_pos_right _ (by decide)))
      (calc c' * (secondMicros * 2 ^ k) < b' * (secondMicros * 2 ^ k) :=
          Nat.mul_lt_mul_of_pos_right hcb' (Nat.mul_pos (by decide) (Nat.two_pow_pos k))
        _ ≤ b' * 2 ^ k * 2 ^ 51 := by
          rw [show b' * (secondMicros * 2 ^ k) = b' * 2 ^ k * secondMicros by ring]
          exact Nat.mul_le_mul_left _ (by unfold secondMicros; norm_num))
  -- the common factor `2 ^ k` cancels
  have f₁' : 2 * (c' * 1000000) * 2 ^ i ≤ 2 * g * b' + b' := by
    apply Nat.le_of_mul_le_mul_right (c := 2 ^ k) _ (Nat.two_pow_pos k)
    unfold secondMicros at f₁
    linarith
  have f₂' : 2 * g * b' ≤ 2 * (c' * 1000000) * 2 ^ i + b' := by
    apply Nat.le_of_mul_le_mul_right (c := 2 ^ k) _ (Nat.two_pow_pos k)
    unfold secondMicros at f₂
    linarith
  -- the product is below a million, so its last place is below `2 ^ -31`
  have hV : 2 ^ 31 < 2 ^ i := by
    have hunit' : b' * 2 ^ 51 ≤ c' * 1000000 * 2 ^ i := by
      apply Nat.le_of_mul_le_mul_right (c := 2 ^ k) _ (Nat.two_pow_pos k)
      unfold secondMicros at hunit
      linarith
    have hbelow : c' * 1000000 < b' * 2 ^ 20 :=
      calc c' * 1000000 < b' * 1000000 := Nat.mul_lt_mul_of_pos_right hcb' (by decide)
        _ ≤ b' * 2 ^ 20 := Nat.mul_le_mul_left _ (by norm_num)
    exact Nat.pow_lt_pow_right (by decide)
      (by have := le_exponent_add_of_unit hunit' hbelow; omega)
  obtain ⟨hA, hB⟩ := micros_of_error hU hV hb' hcb e₁ e₂ f₁' f₂'
  have hA' : (2000 * r * 2 ^ i : Int) < 2 * g + 2 ^ i := by exact_mod_cast hA
  have hB' : (2 * g : Int) < 2000 * r * 2 ^ i + 2 ^ i := by exact_mod_cast hB
  apply roundHalfEvenInt_eq
  rw [ratio_eq hmag', hs', isRoundHalfEven_iff]
  left
  cases neg <;> simp only [Bool.bne_false, Bool.false_eq_true, if_false, if_true] <;>
    push_cast <;> constructor <;> linarith

/-- The millisecond writer on a timestamp `± N / 10 ^ 6` within `2 ^ 32` seconds of 1970: the
product cuts to `N / 1000` milliseconds, or one less when `N` is a whole number of
milliseconds; on a whole second it is exact. -/
theorem trunc?_mulFinite_thousand (neg : Bool) {N : Nat} (hN : N < 1000000 * 2 ^ 32) :
    ∃ q : Nat, (mulFinite (ofRat neg N secondMicros) (ofInt 1000)).trunc? =
        some (if neg then -(q : Int) else q) ∧
      (q = N / 1000 ∨ (N % 1000 = 0 ∧ q + 1 = N / 1000)) ∧
      (N % 1000000 = 0 → q = N / 1000) := by
  obtain ⟨hs₃, k, hmag₃⟩ := magnitude_ofInt_nat (c := 1000) (by decide) (by decide)
  rw [Nat.cast_ofNat] at hs₃ hmag₃
  rcases Nat.eq_zero_or_pos N with rfl | hN₀
  · -- zero stays zero
    obtain ⟨-, -, den, -, hmag⟩ := ofRat_zero neg secondMicros
    rw [mulFinite_eq hmag hmag₃, Nat.zero_mul, hs₃]
    obtain ⟨-, hf', den', -, hmag'⟩ := ofRat_zero ((ofRat neg 0 secondMicros).sign != false)
      (den * 2 ^ k)
    refine ⟨0, ?_, .inl rfl, fun _ => rfl⟩
    simp only [trunc?, hf', hmag', if_true, Nat.zero_div]
    simp
  obtain ⟨hs, -, a, j, hmag, -, e₁, e₂, hunit⟩ :=
    magnitude_ofRat_bound neg hN₀ (d := secondMicros) (by decide)
      (le_mul_two_pow_1022 (calc secondMicros ≤ 2 ^ 72 := by unfold secondMicros; norm_num
        _ ≤ 2 ^ 72 * N := Nat.le_mul_of_pos_right _ hN₀))
      (calc N < 1000000 * 2 ^ 32 := hN
        _ ≤ secondMicros * 2 ^ 51 := by unfold secondMicros; norm_num)
  unfold secondMicros at e₁ e₂ hunit
  -- the timestamp is below `2 ^ 32`, so its last place is at most `2 ^ -20`
  have hU : 2 ^ 20 ≤ 2 ^ j :=
    Nat.pow_le_pow_right (by decide) (by have := le_exponent_add_of_unit hunit hN; omega)
  -- so `a / 2 ^ j` is at most `2 ^ 32`, and positive
  have ha : a ≤ 2 ^ 32 * 2 ^ j := by
    have : a * 1000000 < (2 ^ 32 * 2 ^ j + 1) * 1000000 := by
      have hNU := Nat.mul_le_mul_right (2 ^ j) (Nat.succ_le_of_lt hN)
      linarith
    have := Nat.lt_of_mul_lt_mul_right this
    omega
  have ha₀ : 0 < a := by
    rcases Nat.eq_zero_or_pos a with h | h
    · have := Nat.mul_le_mul hN₀ hU
      rw [h, Nat.mul_assoc] at e₁
      omega
    · exact h
  rw [mulFinite_eq hmag hmag₃, hs, hs₃, Bool.bne_false]
  -- the product `1000 * a / 2 ^ j` is rounded once more
  have hlo : 2 ^ j * 2 ^ k ≤ 2 ^ 72 * (a * (1000 * 2 ^ k)) :=
    calc 2 ^ j * 2 ^ k ≤ 2000000 * a * 2 ^ k := by
          apply Nat.mul_le_mul_right
          have := Nat.mul_le_mul_left 2 (Nat.mul_le_mul_right (2 ^ j) hN₀)
          linarith
      _ ≤ 2 ^ 72 * (a * (1000 * 2 ^ k)) := by
          rw [show 2 ^ 72 * (a * (1000 * 2 ^ k)) = 2 ^ 72 * 1000 * a * 2 ^ k by ring]
          gcongr
          norm_num
  obtain ⟨hs', hf', b, i, hmag', -, f₁, f₂, hunit'⟩ :=
    magnitude_ofRat_bound neg (n := a * (1000 * 2 ^ k)) (d := 2 ^ j * 2 ^ k)
      (Nat.mul_pos ha₀ (Nat.mul_pos (by decide) (Nat.two_pow_pos k)))
      (Nat.mul_pos (Nat.two_pow_pos j) (Nat.two_pow_pos k)) (le_mul_two_pow_1022 hlo)
      (calc a * (1000 * 2 ^ k) ≤ 2 ^ 32 * 2 ^ j * (1000 * 2 ^ k) := Nat.mul_le_mul_right _ ha
        _ < 2 ^ j * 2 ^ k * 2 ^ 51 := by
          rw [show 2 ^ 32 * 2 ^ j * (1000 * 2 ^ k) = 2 ^ j * 2 ^ k * (1000 * 2 ^ 32) by ring]
          exact Nat.mul_lt_mul_of_pos_left (by norm_num)
            (Nat.mul_pos (Nat.two_pow_pos j) (Nat.two_pow_pos k)))
  -- the common factor `2 ^ k` cancels
  have f₁' : 2000 * a * 2 ^ i ≤ 2 * b * 2 ^ j + 2 ^ j := by
    apply Nat.le_of_mul_le_mul_right (c := 2 ^ k) _ (Nat.two_pow_pos k)
    linarith
  have f₂' : 2 * b * 2 ^ j ≤ 2000 * a * 2 ^ i + 2 ^ j := by
    apply Nat.le_of_mul_le_mul_right (c := 2 ^ k) _ (Nat.two_pow_pos k)
    linarith
  -- the product is below `1000 * 2 ^ 32`, so its last place is at most `2 ^ -10`
  have hV : 2 ^ 10 ≤ 2 ^ i := by
    have hunit'' : 2 ^ j * 2 ^ 51 ≤ 1000 * a * 2 ^ i := by
      apply Nat.le_of_mul_le_mul_right (c := 2 ^ k) _ (Nat.two_pow_pos k)
      linarith
    have hbelow : 1000 * a < 2 ^ j * 2 ^ 42 :=
      calc 1000 * a ≤ 1000 * (2 ^ 32 * 2 ^ j) := Nat.mul_le_mul_left _ ha
        _ < 2 ^ j * 2 ^ 42 := by
          rw [show 1000 * (2 ^ 32 * 2 ^ j) = 2 ^ j * (1000 * 2 ^ 32) by ring]
          exact Nat.mul_lt_mul_of_pos_left (by norm_num) (Nat.two_pow_pos j)
    exact Nat.pow_le_pow_right (by decide)
      (by have := le_exponent_add_of_unit hunit'' hbelow; omega)
  refine ⟨b / 2 ^ i, ?_, thousandths_of_error hU hV e₁ e₂ f₁' f₂',
    thousandths_of_error_exact (Nat.two_pow_pos j) (Nat.two_pow_pos i) e₁ e₂ f₁' f₂'⟩
  simp only [trunc?, hf', hmag', hs', if_true]

/-! ## Dates at an instant -/

namespace DateTime

/-- `r` is the UTC date and time `us` microseconds after 1970. -/
def IsUtcAt (r : Except Error DateTime) (us : Int) : Prop :=
  ∃ t, r = .ok t ∧ t.zone = some Zone.utc ∧ t.utcMicros = epochMicros + us

/-- Fields in their ranges make a date and time. -/
theorem make_eq_ok {y mo d h mi s us : Int} {zone : Option Zone} (hy : 1 ≤ y ∧ y ≤ 9999)
    (hmo : 1 ≤ mo ∧ mo ≤ 12) (hd : 1 ≤ d ∧ d ≤ daysInMonth y mo.toNat) (hh : 0 ≤ h ∧ h ≤ 23)
    (hmi : 0 ≤ mi ∧ mi ≤ 59) (hs : 0 ≤ s ∧ s ≤ 59) (hus : 0 ≤ us ∧ us ≤ 999999) :
    make y mo d h mi s us zone =
      .ok ⟨y.toNat, mo.toNat, d.toNat, h.toNat, mi.toNat, s.toNat, us.toNat, zone⟩ := by
  unfold make
  simp only [Bool.or_eq_true, decide_eq_true_eq]
  rw [if_neg (by omega), if_neg (by omega), if_neg (by omega), if_neg (by omega),
    if_neg (by omega), if_neg (by omega), if_neg (by omega)]

/-- The instant `us` microseconds after 1970 falls in the years 1 to 9999 when `us` lies between
the first microsecond of year 1 and the end of year 9999. -/
theorem inRange_epochMicros_add_iff (us : Int) :
    InRange (epochMicros + us) ↔ -62135596800000000 ≤ us ∧ us < 253402300800000000 := by
  rw [InRange, epochMicros_eq]
  unfold maxOrdinal dayMicros secondMicros
  omega

/-- Whole seconds after 1970 and microseconds below a second make the UTC date and time of that
instant, when it falls in the years 1 to 9999. -/
theorem ofEpochSeconds_isUtcAt (n : Int) {μ : Nat} (hμ : μ < 1000000) {us : Int}
    (hus : n * 1000000 + μ = us) (hin : InRange (epochMicros + us)) :
    IsUtcAt (ofEpochSeconds n μ) us := by
  rw [inRange_epochMicros_add_iff] at hin
  have hepoch : epoch.localMicros / (dayMicros : Int) = 719162 := by
    show epochMicros / _ = _
    rw [epochMicros_eq]
    rfl
  -- the day of the instant has an ordinal from 1 to the last of year 9999
  have h₁ : 1 ≤ n / 86400 + 719162 + 1 := by omega
  have h₂ : n / 86400 + 719162 + 1 ≤ maxOrdinal := by
    unfold maxOrdinal
    omega
  obtain ⟨hy, hord⟩ := ordinal_ofOrdinal h₁
  obtain ⟨hm₁, hm₂, hd₁, hd₂⟩ := ofOrdinal_valid (n / 86400 + 719162 + 1)
  have hy₂ := ofOrdinal_year_le h₁ h₂
  unfold ofEpochSeconds
  dsimp only
  rw [hepoch]
  generalize ofOrdinal (n / 86400 + 719162 + 1) = p at hy hord hm₁ hm₂ hd₁ hd₂ hy₂
  obtain ⟨y, m, d⟩ := p
  dsimp only at hy hord hm₁ hm₂ hd₁ hd₂ hy₂ ⊢
  have h31 : Int.pow 2 31 = 2147483648 := rfl
  rw [if_neg (by simp only [h31, Bool.or_eq_true, decide_eq_true_eq, not_or]; omega),
    make_eq_ok ⟨hy, hy₂⟩ ⟨by omega, by omega⟩ ⟨by omega, by simpa using hd₂⟩
      ⟨by omega, by omega⟩ ⟨by omega, by omega⟩ ⟨by omega, by omega⟩ ⟨by omega, by omega⟩]
  refine ⟨_, rfl, rfl, ?_⟩
  -- whole days, then hours, minutes and seconds of the rest of the day
  unfold utcMicros localMicros
  simp only [Int.toNat_natCast, Option.map_some, Option.getD_some, Zone.utc, Int.sub_zero,
    Int.toNat_of_nonneg (show 0 ≤ y by omega), hord]
  rw [epochMicros_eq]
  unfold secondMicros
  omega

set_option linter.auxLemma false in
/-- A finite double whose whole part cuts to `s` seconds and whose fraction scales to `m`
microseconds, less than a second either way, is read as the UTC date and time of that instant,
when it falls in the years 1 to 9999. -/
theorem ofTimestamp_isUtcAt {x whole fraction : Binary64} (hf : x.isFinite = true)
    (hsplit : x.splitFraction = (whole, fraction)) {s m us : Int} (hw : whole.trunc? = some s)
    (hm : roundHalfEvenInt (mulFinite fraction (ofInt secondMicros)) = m)
    (hm₁ : -1000000 < m) (hm₂ : m < 1000000) (hus : s * 1000000 + m = us)
    (hin : InRange (epochMicros + us)) :
    IsUtcAt (ofTimestamp x) us := by
  have hrange : -9223372036854775808 < s - 1 ∧ s + 1 < 9223372036854775808 := by
    rw [inRange_epochMicros_add_iff] at hin
    omega
  have h63 : timeLimit = 9223372036854775808 := rfl
  unfold ofTimestamp
  rw [if_neg (by simp [isNaN_eq_false hf]), if_neg (by simp [hf])]
  -- the pair of seconds and microseconds is left unreduced until its branch is known: reducing
  -- a match on an undecided pair makes the kernel evaluate the doubles inside it
  simp -iota only [hsplit, ofTimestamp.match_3.eq_1, hw, hm, Option.getD_some]
  unfold secondMicros
  rw [if_neg (by omega)]
  rcases Int.lt_or_le m 0 with hneg | hpos
  · -- a negative fraction borrows a second
    rw [if_pos hneg]
    simp only [h63]
    rw [if_neg (by simp only [Bool.or_eq_true, decide_eq_true_eq]; omega)]
    exact ofEpochSeconds_isUtcAt (s - 1) (by omega) (by omega) hin
  · rw [if_neg (Int.not_lt.2 hpos)]
    simp only [h63]
    rw [if_neg (by simp only [Bool.or_eq_true, decide_eq_true_eq]; omega)]
    exact ofEpochSeconds_isUtcAt s (by omega) (by omega) hin

/-- The timestamp of an aware date is its count of microseconds since 1970, divided by a
million and rounded once. -/
theorem timestamp_of_zone {t : DateTime} {z : Zone} (ht : t.zone = some z) :
    t.timestamp = .ok (ofRat (decide (t.utcMicros - epochMicros < 0))
      (t.utcMicros - epochMicros).natAbs secondMicros) := by
  unfold timestamp
  rw [ht]

end DateTime

/-- Cutting an integer toward zero divides its magnitude and keeps its sign. -/
theorem tdiv_eq_natAbs_div (us : Int) (d : Nat) :
    us.tdiv d =
      if decide (us < 0) then -((us.natAbs / d : Nat) : Int) else (us.natAbs / d : Nat) := by
  rcases us with m | m <;> simp [Int.tdiv]

/-! ## The two formatters -/

namespace Formatter

open DateTime

theorem toFloat_int {s : Store} {v : Node} {n : Int} (hv : s.scalarOf? v = some (.int n))
    (hn : n.natAbs < 2 ^ 51) : s.toFloat v = .ok (ofInt n) := by
  unfold Store.toFloat
  rw [hv]
  simp [Scalar.toFloat, isInfinite_eq_false (isFinite_ofInt hn)]

/-- Within `2 ^ 34` seconds of 1970, the UNIX formatter writes an aware date as its
microseconds since 1970 divided by a million and cut toward zero. -/
theorem format_unix_of_zone {t : DateTime} {z : Zone} (ht : t.zone = some z)
    (hus : (t.utcMicros - epochMicros).natAbs < 1000000 * 2 ^ 34) :
    format t .unix = .ok (.int ((t.utcMicros - epochMicros).tdiv 1000000)) := by
  unfold format
  rw [timestamp_of_zone ht]
  simp only [bind, Except.bind, pure, Except.pure]
  have hcut := tdiv_eq_natAbs_div (t.utcMicros - epochMicros) 1000000
  rw [Nat.cast_ofNat] at hcut
  rw [trunc?_ofRat _ (by decide) (by decide) (by unfold secondMicros; omega), hcut]
  rfl

/-- A date and time on a whole number of seconds since 1970, below `2 ^ 51`, is written as that
number. -/
theorem format_unix_whole {t : DateTime} {z : Zone} (ht : t.zone = some z) {n : Int}
    (hn : n.natAbs < 2 ^ 51) (hus : t.utcMicros = epochMicros + n * 1000000) :
    format t .unix = .ok (.int n) := by
  unfold format
  rw [timestamp_of_zone ht]
  simp only [bind, Except.bind, pure, Except.pure]
  have hsec : t.utcMicros - epochMicros = n * 1000000 := by omega
  have hnat : (n * 1000000).natAbs = n.natAbs * secondMicros := by
    rw [Int.natAbs_mul]
    rfl
  have hneg : decide (n * 1000000 < 0) = decide (n < 0) := by
    simp only [decide_eq_decide]
    omega
  rw [hsec, hnat, hneg, trunc?_ofRat_mul _ (by decide) hn]
  simp only [decide_eq_true_eq, Option.getD_some, Except.ok.injEq, Scalar.int.injEq]
  split <;> omega

/-- Every whole number of seconds whose instant falls in the years 1 to 9999 is read by the UNIX
formatter as the UTC date and time of that instant. -/
theorem parse_unix_int {s : Store} {v : Node} {n : Int} (hv : s.scalarOf? v = some (.int n))
    (hin : InRange (epochMicros + n * 1000000)) : IsUtcAt (parse s v .unix) (n * 1000000) := by
  have hn : n.natAbs < 2 ^ 38 := by
    rw [inRange_epochMicros_add_iff] at hin
    omega
  rw [parse, toFloat_int hv (by omega)]
  simp only [bind, Except.bind]
  -- an integer splits into itself and no fraction
  have hsplit : (ofInt n).splitFraction =
      (ofRat (decide (n < 0)) n.natAbs 1, ofRat (decide (n < 0)) 0 1) := by
    rw [ofInt_eq, splitFraction_ofRat_mul_of_lt _ (by decide) (by omega)]
  have hw : (ofRat (decide (n < 0)) n.natAbs 1).trunc? = some n := trunc?_ofInt (by omega)
  exact ofTimestamp_isUtcAt (isFinite_ofInt (by omega)) hsplit hw
    (roundHalfEvenInt_mulFinite_zero _ _ _) (by decide) (by decide) (Int.add_zero _) hin

/-- Within `2 ^ 32` seconds of 1970, every whole number of milliseconds is read by the UNIX_MS
formatter as the UTC date and time of that instant. -/
theorem parse_unixMs_int {s : Store} {v : Node} {n : Int} (hv : s.scalarOf? v = some (.int n))
    (hn : n.natAbs < 1000 * 2 ^ 32) : IsUtcAt (parse s v .unixMs) (n * 1000) := by
  rw [parse, toFloat_int hv (by omega)]
  have htrunc : truncate (ofInt n) = .ok n := by
    unfold truncate
    rw [isNaN_eq_false (isFinite_ofInt (by omega)), trunc?_ofInt (by omega)]
    rfl
  simp only [bind, Except.bind, htrunc]
  -- the milliseconds as a double of seconds: the whole seconds and a fraction near `r / 1000`
  obtain ⟨c, j, hsplit, hj, hj₂, hcj, hc₂, e₁, e₂⟩ :=
    splitFraction_ofRat (decide (n < 0)) (n := n.natAbs) (d := 1000) (e := 32) (by norm_num)
      (by norm_num) (by norm_num) (by omega)
  have hwhole := trunc?_ofRat_mul (decide (n < 0)) (c := n.natAbs / 1000) (d := 1) (by decide)
    (by omega)
  rw [Nat.mul_one] at hwhole
  have hm := roundHalfEvenInt_micros (decide (n < 0)) (r := n.natAbs % 1000) (by omega) hj₂ hcj
    hc₂ e₁ e₂
  have hfin : (ofRat (decide (n < 0)) n.natAbs 1000).isFinite = true := by
    rcases Nat.eq_zero_or_pos n.natAbs with h | h
    · rw [h]
      exact (ofRat_zero _ _).2.1
    · exact (magnitude_ofRat_error _ h (by norm_num) (by norm_num) (e := 32) (by norm_num)
        (by omega)).2.1
  refine ofTimestamp_isUtcAt hfin hsplit hwhole hm ?_ ?_ ?_ ?_
  · split <;> omega
  · split <;> omega
  · simp only [decide_eq_true_eq]
    split <;> omega
  · rw [inRange_epochMicros_add_iff]
    omega

/-- Within `2 ^ 32` seconds of 1970, the UNIX_MS formatter writes an aware date as its
microseconds since 1970 divided by a thousand and cut toward zero, or, on a whole millisecond,
possibly one closer to zero; on a whole second, exactly. -/
theorem format_unixMs_of_zone {t : DateTime} {z : Zone} (ht : t.zone = some z)
    (hus : (t.utcMicros - epochMicros).natAbs < 1000000 * 2 ^ 32) :
    ∃ k : Int, format t .unixMs = .ok (.int k) ∧
      (k = (t.utcMicros - epochMicros).tdiv 1000 ∨
        (1000 ∣ t.utcMicros - epochMicros ∧
          k = (t.utcMicros - epochMicros).tdiv 1000 - (t.utcMicros - epochMicros).sign)) ∧
      (1000000 ∣ t.utcMicros - epochMicros → k = (t.utcMicros - epochMicros).tdiv 1000) := by
  unfold format
  rw [timestamp_of_zone ht]
  simp only [bind, Except.bind, pure, Except.pure]
  generalize t.utcMicros - epochMicros = us at hus ⊢
  obtain ⟨q, hq, hcases, hexact⟩ := trunc?_mulFinite_thousand (decide (us < 0)) hus
  have hcut := tdiv_eq_natAbs_div us 1000
  rw [Nat.cast_ofNat] at hcut
  rw [hq]
  simp only [Option.getD_some]
  refine ⟨_, rfl, ?_, ?_⟩
  · rw [hcut]
    rcases hcases with rfl | ⟨hr, hq₁⟩
    · exact .inl rfl
    · refine .inr ⟨Int.natCast_dvd.2 (Nat.dvd_of_mod_eq_zero hr), ?_⟩
      simp only [decide_eq_true_eq]
      split
      · rw [Int.sign_eq_neg_one_of_neg ‹_›]
        omega
      · rw [Int.sign_eq_one_of_pos (by omega)]
        omega
  · intro hdvd
    rw [hexact (Nat.mod_eq_zero_of_dvd (Int.natCast_dvd.1 hdvd)), hcut]

/-- The UNIX and UNIX_MS formatters, both ways round. Within `2 ^ 34` seconds of 1970 the UNIX
formatter writes an aware date as its microseconds since 1970 divided by a million and cut toward
zero, so a date before 1970 with a fraction of a second is written one second later than its
floor; every whole number of seconds in the years 1 to 9999 reads as the UTC date of that instant
and is written back as itself. Within `2 ^ 32` seconds of 1970 the UNIX_MS formatter writes an
aware date as its microseconds divided by a thousand and cut toward zero, or, on a whole
millisecond, possibly one closer to zero, and exactly on a whole second; every whole number of
milliseconds reads as the UTC date of that instant, and is written back as itself or one closer
to zero, as itself when it is a whole number of seconds. -/
theorem unix_codecs_cut_toward_zero (s : Store) :
    (∀ (t : DateTime) (z : Zone), t.zone = some z →
      (t.utcMicros - epochMicros).natAbs < 1000000 * 2 ^ 34 →
      format t .unix = .ok (.int ((t.utcMicros - epochMicros).tdiv 1000000))) ∧
    (∀ (v : Node) (n : Int), s.scalarOf? v = some (.int n) →
      InRange (epochMicros + n * 1000000) →
      ∃ d, parse s v .unix = .ok d ∧ d.zone = some Zone.utc ∧
        d.utcMicros = epochMicros + n * 1000000 ∧ format d .unix = .ok (.int n)) ∧
    (∀ (t : DateTime) (z : Zone), t.zone = some z →
      (t.utcMicros - epochMicros).natAbs < 1000000 * 2 ^ 32 →
      ∃ k : Int, format t .unixMs = .ok (.int k) ∧
        (k = (t.utcMicros - epochMicros).tdiv 1000 ∨
          (1000 ∣ t.utcMicros - epochMicros ∧
            k = (t.utcMicros - epochMicros).tdiv 1000 - (t.utcMicros - epochMicros).sign)) ∧
        (1000000 ∣ t.utcMicros - epochMicros → k = (t.utcMicros - epochMicros).tdiv 1000)) ∧
    (∀ (v : Node) (n : Int), s.scalarOf? v = some (.int n) → n.natAbs < 1000 * 2 ^ 32 →
      ∃ d, parse s v .unixMs = .ok d ∧ d.zone = some Zone.utc ∧
        d.utcMicros = epochMicros + n * 1000 ∧
        ∃ k : Int, format d .unixMs = .ok (.int k) ∧ (k = n ∨ k = n - n.sign) ∧
          (1000 ∣ n → k = n)) := by
  refine ⟨fun t z ht hus => format_unix_of_zone ht hus, ?_,
    fun t z ht hus => format_unixMs_of_zone ht hus, ?_⟩
  · -- whole seconds
    intro v n hv hin
    obtain ⟨d, hd, hz, hu⟩ := parse_unix_int hv hin
    have hn : n.natAbs < 2 ^ 51 := by
      rw [inRange_epochMicros_add_iff] at hin
      omega
    exact ⟨d, hd, hz, hu, format_unix_whole hz hn hu⟩
  · -- whole milliseconds: the written count is read through the instant `n * 1000`
    intro v n hv hn
    obtain ⟨d, hd, hz, hu⟩ := parse_unixMs_int hv hn
    have hsub : d.utcMicros - epochMicros = n * 1000 := by omega
    have hms : (d.utcMicros - epochMicros).natAbs < 1000000 * 2 ^ 32 := by
      rw [hsub, Int.natAbs_mul, show Int.natAbs 1000 = 1000 from rfl]
      omega
    obtain ⟨k, hk, hcases, hexact⟩ := format_unixMs_of_zone hz hms
    rw [hsub] at hcases hexact
    have htdiv : (n * 1000).tdiv 1000 = n := Int.mul_tdiv_cancel n (by decide)
    have hsign : (n * 1000).sign = n.sign := by
      rw [Int.sign_mul, show Int.sign 1000 = 1 from rfl, Int.mul_one]
    refine ⟨d, hd, hz, hu, k, hk, ?_, fun h => ?_⟩
    · rcases hcases with h | ⟨-, h⟩
      · exact .inl (h.trans htdiv)
      · exact .inr (by rw [h, htdiv, hsign])
    · obtain ⟨c, rfl⟩ := h
      rw [hexact ⟨c, by ring⟩, htdiv]

/-- The four laws near 1970: half a second before it is written by the UNIX formatter as second
0, the second it is cut toward; -2 read by the UNIX formatter is two seconds before 1970 and is
written back as -2; the UNIX_MS formatter writes half a second before 1970 as -500 or -499; 1001
read by the UNIX_MS formatter is 1001 milliseconds after 1970 and is written back as 1001 or
1000. -/
theorem unix_codecs_near_epoch :
    let t : DateTime := ⟨1969, 12, 31, 23, 59, 59, 500000, some Zone.utc⟩
    t.utcMicros - epochMicros = -500000 ∧
      format t .unix = .ok (.int 0) ∧
      InRange (epochMicros + -2 * 1000000) ∧
      (∃ d, parse Store.empty (.scalar (.int (-2))) .unix = .ok d ∧ d.zone = some Zone.utc ∧
        d.utcMicros = epochMicros + -2 * 1000000 ∧ format d .unix = .ok (.int (-2))) ∧
      (∃ k : Int, format t .unixMs = .ok (.int k) ∧ (k = -500 ∨ k = -499)) ∧
      (∃ d, parse Store.empty (.scalar (.int 1001)) .unixMs = .ok d ∧ d.zone = some Zone.utc ∧
        d.utcMicros = epochMicros + 1001 * 1000 ∧
        ∃ k : Int, format d .unixMs = .ok (.int k) ∧ (k = 1001 ∨ k = 1000)) := by
  intro t
  have hus : t.utcMicros - epochMicros = -500000 := by decide
  have hnear : (t.utcMicros - epochMicros).natAbs < 1000000 * 2 ^ 32 := by
    rw [hus]
    decide
  have hin : InRange (epochMicros + -2 * 1000000) := by
    rw [inRange_epochMicros_add_iff]
    decide
  obtain ⟨hunix, hread, hms, hreadMs⟩ := unix_codecs_cut_toward_zero Store.empty
  refine ⟨hus, ?_, hin, hread _ _ rfl hin, ?_, ?_⟩
  · rw [hunix t Zone.utc rfl (by omega), hus]
    rfl
  · -- the count in milliseconds cut toward zero is -500, and a whole millisecond may lose one
    obtain ⟨k, hk, hcut, -⟩ := hms t Zone.utc rfl hnear
    have htdiv : (-500000 : Int).tdiv 1000 = -500 := by decide
    have hsign : (-500000 : Int).sign = -1 := by decide
    rw [hus, htdiv, hsign] at hcut
    exact ⟨k, hk, by omega⟩
  · obtain ⟨d, hd, hz, hu, k, hk, hcut, -⟩ := hreadMs (.scalar (.int 1001)) 1001 rfl (by decide)
    have hsign : (1001 : Int).sign = 1 := by decide
    rw [hsign] at hcut
    exact ⟨d, hd, hz, hu, k, hk, by omega⟩

/-- A result read back through `toOption` as a value is that value. -/
theorem eq_ok_of_toOption {ε α : Type} {r : Except ε α} {a : α} (h : r.toOption = some a) :
    r = .ok a := by
  cases r with
  | ok b => cases h; rfl
  | error e => cases h

/-- Half a second before 1970 is written by the UNIX formatter as 0, the second it is cut toward,
not as -1, its floor; and 1001 milliseconds read by the UNIX_MS formatter are written back as
1000, the product of the two roundings landing just below 1001. -/
theorem unix_codecs_miss_floor_and_millisecond :
    format ⟨1969, 12, 31, 23, 59, 59, 500000, some Zone.utc⟩ .unix = .ok (.int 0) ∧
      ∃ d, parse Store.empty (.scalar (.int 1001)) .unixMs = .ok d ∧
        format d .unixMs = .ok (.int 1000) := by
  constructor
  · have hcut : ((⟨1969, 12, 31, 23, 59, 59, 500000, some Zone.utc⟩ : DateTime).utcMicros -
        epochMicros).tdiv 1000000 = 0 := by decide
    rw [format_unix_of_zone rfl (by decide), hcut]
  · -- the reading and the writing are evaluated in the kernel, through `toOption`
    have hread : (parse Store.empty (.scalar (.int 1001)) .unixMs).toOption =
        some ⟨1970, 1, 1, 0, 0, 1, 1000, some Zone.utc⟩ := by
      rw [parse]
      decide +kernel
    have hwrite : (format ⟨1970, 1, 1, 0, 0, 1, 1000, some Zone.utc⟩ .unixMs).toOption =
        some (.int 1000) := by
      decide +kernel
    exact ⟨_, eq_ok_of_toOption hread, eq_ok_of_toOption hwrite⟩

end Formatter

end Time

end Ingest
