import Ingest.Number.Binary64
import Mathlib.Tactic.GCongr
import Mathlib.Tactic.Linarith
import Mathlib.Tactic.Ring

/-!
# Rounding to a double, read exactly

`Binary64.ofRat neg n d` rounds `n / d` once, to nearest with ties to even. This module reads
that rounding back in exact arithmetic, for values in the normal range well below `2 ^ 53`:

* `floorLog2 n d` is the binade of `n / d` (`floorLog2_spec`), so the significand
  `roundHalfEven (n * 2 ^ k) d` for `k = 52 - floorLog2 n d` has 53 bits, or carries into the
  next binade (`Binary64.ofRat_normal`);
* below `2 ^ 34`, with `d` below `2 ^ 20`, the rounding never crosses an integer: the double's
  integer part, cut toward zero, is that of `n / d` (`Binary64.trunc?_ofRat`);
* an integer below `2 ^ 51` is held exactly (`Binary64.magnitude_ofRat_mul`,
  `Binary64.splitFraction_ofRat_mul_of_lt`);
* in the normal range below `2 ^ 51`, the double is within half a unit of its last place of
  `n / d`, a place worth at most `2 ^ -51` times `n / d` (`Binary64.magnitude_ofRat_bound`);
* below `2 ^ e`, with `d` below `2 ^ 18`, that place is worth at most `2 ^ (e - 52)`
  (`Binary64.magnitude_ofRat_error`), so the double's fraction, held exactly
  (`Binary64.ratio_ofRat_pow_two`), is within that of the fraction of `n / d` and on the same
  side of one half (`Binary64.splitFraction_ofRat`, `div_and_half_of_error`).
-/

namespace Ingest

/-! ## Rounding a quotient -/

/-- Rounding `n / d` gives the quotient, or one more when the remainder is at least half of
`d`. -/
theorem roundHalfEven_cases (n d : Nat) :
    roundHalfEven n d = n / d ∨ (roundHalfEven n d = n / d + 1 ∧ d ≤ 2 * (n % d)) := by
  unfold roundHalfEven
  dsimp only
  split
  · exact .inl rfl
  · split
    · exact .inr ⟨rfl, by omega⟩
    · split
      · exact .inl rfl
      · exact .inr ⟨rfl, by omega⟩

theorem roundHalfEven_of_dvd {n d : Nat} (h : d ∣ n) : roundHalfEven n d = n / d := by
  rcases roundHalfEven_cases n d with h' | ⟨h', hr⟩
  · exact h'
  · rcases Nat.eq_zero_or_pos d with rfl | hd
    · obtain rfl : n = 0 := Nat.eq_zero_of_zero_dvd h
      rfl
    · rw [Nat.mod_eq_zero_of_dvd h] at hr
      omega

theorem le_roundHalfEven {n d c : Nat} (hd : 0 < d) (h : c * d ≤ n) : c ≤ roundHalfEven n d := by
  have : c ≤ n / d := (Nat.le_div_iff_mul_le hd).2 h
  rcases roundHalfEven_cases n d with h' | ⟨h', -⟩ <;> omega

theorem roundHalfEven_le {n d c : Nat} (hd : 0 < d) (h : n < c * d) : roundHalfEven n d ≤ c := by
  have : n / d < c := (Nat.div_lt_iff_lt_mul hd).2 h
  rcases roundHalfEven_cases n d with h' | ⟨h', -⟩ <;> omega

/-- Rounding `n / d` to the nearest integer errs by at most half a unit:
`|2 * roundHalfEven n d * d - 2 * n| ≤ d`, multiplied out. -/
theorem roundHalfEven_error (n : Nat) {d : Nat} (hd : 0 < d) :
    2 * n ≤ 2 * roundHalfEven n d * d + d ∧ 2 * roundHalfEven n d * d ≤ 2 * n + d := by
  have hdm := Nat.div_add_mod n d
  have hr := Nat.mod_lt n hd
  unfold roundHalfEven
  dsimp only
  generalize n / d = q at hdm ⊢
  generalize n % d = r at hdm hr ⊢
  subst hdm
  split
  · constructor <;> linarith
  · split
    · constructor <;> linarith
    · split <;> constructor <;> linarith

/-- Scaled by `2 ^ k`, rounding keeps the integer part of `n / d` as long as `d < 2 ^ (k + 1)`:
rounding up across `(n / d + 1) * 2 ^ k` would need the remainder within half a unit of `d`. -/
theorem roundHalfEven_mul_pow_div (n d k : Nat) (hd : 0 < d) (hk : d < 2 * 2 ^ k) :
    roundHalfEven (n * 2 ^ k) d / 2 ^ k = n / d := by
  have hp : 0 < 2 ^ k := Nat.two_pow_pos k
  obtain ⟨t, r, hn, hr⟩ : ∃ t r, n = t * d + r ∧ r < d :=
    ⟨n / d, n % d, by rw [Nat.mul_comm]; exact (Nat.div_add_mod n d).symm, Nat.mod_lt n hd⟩
  have ht : n / d = t := by
    rw [hn, Nat.add_comm, Nat.add_mul_div_right _ _ hd, Nat.div_eq_of_lt hr, Nat.zero_add]
  rw [ht]
  apply Nat.div_eq_of_lt_le
  · apply le_roundHalfEven hd
    rw [hn]
    linarith [Nat.zero_le (r * 2 ^ k)]
  · obtain ⟨Q, R, hN, hR⟩ : ∃ Q R, n * 2 ^ k = Q * d + R ∧ R < d :=
      ⟨n * 2 ^ k / d, n * 2 ^ k % d, by rw [Nat.mul_comm _ d]; exact (Nat.div_add_mod _ d).symm,
        Nat.mod_lt _ hd⟩
    have hQ : n * 2 ^ k / d = Q := by
      rw [hN, Nat.add_comm, Nat.add_mul_div_right _ _ hd, Nat.div_eq_of_lt hR, Nat.zero_add]
    have hRm : n * 2 ^ k % d = R := by
      rw [hN, Nat.add_comm, Nat.add_mul_mod_self_right, Nat.mod_eq_of_lt hR]
    rcases roundHalfEven_cases (n * 2 ^ k) d with h' | ⟨h', hhalf⟩
    · rw [h', hQ]
      by_contra hcon
      have h₁ : (t + 1) * 2 ^ k * d ≤ Q * d := Nat.mul_le_mul_right d (by omega)
      have h₂ : (r + 1) * 2 ^ k ≤ d * 2 ^ k := Nat.mul_le_mul_right _ hr
      rw [hn] at hN
      linarith
    · rw [h', hQ]
      rw [hRm] at hhalf
      by_contra hcon
      have h₁ : (t + 1) * 2 ^ k * d ≤ (Q + 1) * d := Nat.mul_le_mul_right d (by omega)
      have h₂ : 2 ^ k * r + 2 ^ k ≤ 2 ^ k * d := by
        rw [← Nat.mul_succ]
        exact Nat.mul_le_mul_left _ hr
      rw [hn] at hN
      linarith

/-- Two fractions that are equal have equal integer parts. -/
theorem div_eq_div_of_mul_eq {a b c d : Nat} (hb : 0 < b) (hd : 0 < d) (h : a * d = c * b) :
    a / b = c / d := by
  apply Nat.div_eq_of_lt_le
  · apply Nat.le_of_mul_le_mul_right _ hd
    calc c / d * b * d = c / d * d * b := Nat.mul_right_comm _ _ _
      _ ≤ c * b := Nat.mul_le_mul_right _ (Nat.div_mul_le_self c d)
      _ = a * d := h.symm
  · apply Nat.lt_of_mul_lt_mul_right (a := d)
    calc a * d = c * b := h
      _ < (c / d + 1) * d * b :=
        Nat.mul_lt_mul_of_pos_right (Nat.lt_mul_of_div_lt (Nat.lt_succ_self _) hd) hb
      _ = (c / d + 1) * b * d := Nat.mul_right_comm _ _ _

/-- A ratio `a / b` within half a unit of `n / d` in the last place of `b`, with `b` even and
larger than `d`, has the integer part of `n / d`, and its fraction lies on the same side of one
half as that of `n / d`. -/
theorem div_and_half_of_error {a b n d : Nat} (hd : 0 < d) (hdb : d < b) (hb : 2 ∣ b)
    (h₁ : 2 * n * b ≤ 2 * a * d + d) (h₂ : 2 * a * d ≤ 2 * n * b + d) :
    a / b = n / d ∧ (2 * (a % b) < b ↔ 2 * (n % d) < d) ∧
      (b < 2 * (a % b) ↔ d < 2 * (n % d)) := by
  have hn := Nat.div_add_mod n d
  have ha := Nat.div_add_mod a b
  have hr := Nat.mod_lt n hd
  have hR := Nat.mod_lt a (by omega : 0 < b)
  generalize n / d = q at hn ⊢
  generalize n % d = r at hn hr ⊢
  generalize a / b = Q at ha ⊢
  generalize a % b = R at ha hR ⊢
  subst hn ha
  have hRd : (R + 1) * d ≤ b * d := Nat.mul_le_mul_right d hR
  have hrb : (r + 1) * b ≤ d * b := Nat.mul_le_mul_right b hr
  -- the integer parts agree: one more or one less would put the two ratios a unit apart
  have hQ : Q = q := by
    rcases Nat.lt_trichotomy Q q with hlt | heq | hgt
    · have : (Q + 1) * (d * b) ≤ q * (d * b) := Nat.mul_le_mul_right _ hlt
      linarith [Nat.zero_le (r * b)]
    · exact heq
    · have : (q + 1) * (d * b) ≤ Q * (d * b) := Nat.mul_le_mul_right _ hgt
      linarith [Nat.zero_le (R * d)]
  subst hQ
  obtain ⟨c, rfl⟩ := hb
  refine ⟨rfl, ⟨fun h => ?_, fun h => ?_⟩, ⟨fun h => ?_, fun h => ?_⟩⟩
  · -- below one half: at least half of `d` left over would put `a / b` at or above one half
    by_contra hcon
    have h₃ : (R + 1) * d ≤ c * d := Nat.mul_le_mul_right d (by omega)
    have h₄ : d * (2 * c) ≤ 2 * r * (2 * c) := Nat.mul_le_mul_right _ (by omega)
    linarith
  · by_contra hcon
    have h₃ : c * d ≤ R * d := Nat.mul_le_mul_right d (by omega)
    have h₄ : (2 * r + 1) * (2 * c) ≤ d * (2 * c) := Nat.mul_le_mul_right _ (by omega)
    linarith
  · -- above one half, symmetrically
    by_contra hcon
    have h₃ : (c + 1) * d ≤ R * d := Nat.mul_le_mul_right d (by omega)
    have h₄ : 2 * r * (2 * c) ≤ d * (2 * c) := Nat.mul_le_mul_right _ (by omega)
    linarith
  · by_contra hcon
    have h₃ : R * d ≤ c * d := Nat.mul_le_mul_right d (by omega)
    have h₄ : (d + 1) * (2 * c) ≤ 2 * r * (2 * c) := Nat.mul_le_mul_right _ (by omega)
    linarith

/-! ## The binade -/

/-- The binade of `n / d`, read through a common scale `2 ^ s`: `2 ^ e ≤ n / d < 2 ^ (e + 1)`
for `e = floorLog2 n d`, multiplied out. -/
theorem floorLog2_spec {n d : Nat} (hn : 0 < n) (hd : 0 < d) {s e : Nat}
    (he : floorLog2 n d + s = e) : d * 2 ^ e ≤ n * 2 ^ s ∧ n * 2 ^ s < 2 * d * 2 ^ e := by
  have hn₁ := Nat.log2_self_le (Nat.pos_iff_ne_zero.1 hn)
  have hn₂ := Nat.lt_log2_self (n := n)
  have hd₁ := Nat.log2_self_le (Nat.pos_iff_ne_zero.1 hd)
  have hd₂ := Nat.lt_log2_self (n := d)
  unfold floorLog2 scaleByTwo at he
  generalize n.log2 = a at *
  generalize d.log2 = b at *
  dsimp only at he
  rcases le_or_gt b a with hab | hab
  · -- `n / d` is at least about one: the estimate scales `d` up by `2 ^ (a - b)`
    have h0 : (0 : Int) ≤ (a : Int) - b := by omega
    have hc : ((a : Int) - b).toNat = a - b := by omega
    simp only [h0, if_true, hc, Nat.mul_one, Nat.pow_eq] at he
    split at he
    · rename_i hcond
      obtain rfl : e = a - b + s := by omega
      rw [pow_add, ← Nat.mul_assoc]
      refine ⟨Nat.mul_le_mul_right _ hcond, ?_⟩
      have : n < 2 * d * 2 ^ (a - b) :=
        calc n < 2 ^ (a + 1) := hn₂
          _ = 2 * 2 ^ b * 2 ^ (a - b) := by
            rw [Nat.mul_assoc, ← pow_add, ← pow_succ']
            congr 1
            omega
          _ ≤ 2 * d * 2 ^ (a - b) := by gcongr
      have := Nat.mul_lt_mul_of_pos_right this (Nat.two_pow_pos s)
      rwa [Nat.mul_assoc (2 * d)] at this
    · rename_i hcond
      have hE : e + 1 = a - b + s := by omega
      constructor
      · calc d * 2 ^ e ≤ 2 ^ (b + 1) * 2 ^ e := Nat.mul_le_mul_right _ hd₂.le
          _ = 2 ^ a * 2 ^ s := by
            rw [← pow_add, ← pow_add]
            congr 1
            omega
          _ ≤ n * 2 ^ s := Nat.mul_le_mul_right _ hn₁
      · calc n * 2 ^ s < d * 2 ^ (a - b) * 2 ^ s :=
            Nat.mul_lt_mul_of_pos_right (by omega) (Nat.two_pow_pos s)
          _ = 2 * d * 2 ^ e := by
            rw [Nat.mul_assoc, ← pow_add, ← hE, pow_succ]
            ring
  · -- `n / d` is below one: the estimate scales `n` up by `2 ^ (b - a)`
    have h0 : ¬ (0 : Int) ≤ (a : Int) - b := by omega
    have hc : (-((a : Int) - b)).toNat = b - a := by omega
    simp only [h0, if_false, hc, Nat.pow_eq] at he
    split at he
    · rename_i hcond
      have hE : e + (b - a) = s := by omega
      subst hE
      rw [pow_add, ← Nat.mul_assoc, Nat.mul_right_comm n]
      constructor
      · exact Nat.mul_le_mul_right _ hcond
      · calc n * 2 ^ (b - a) * 2 ^ e < 2 ^ (a + 1) * 2 ^ (b - a) * 2 ^ e := by gcongr
          _ = 2 * 2 ^ b * 2 ^ e := by
            rw [← pow_add, Nat.mul_comm 2, ← pow_succ]
            congr 2
            omega
          _ ≤ 2 * d * 2 ^ e := by gcongr
    · rename_i hcond
      have hE : e + 1 + (b - a) = s := by omega
      subst hE
      constructor
      · calc d * 2 ^ e ≤ 2 ^ (b + 1) * 2 ^ e := Nat.mul_le_mul_right _ hd₂.le
          _ = 2 ^ a * 2 ^ (e + 1 + (b - a)) := by
            rw [← pow_add, ← pow_add]
            congr 1
            omega
          _ ≤ n * 2 ^ (e + 1 + (b - a)) := Nat.mul_le_mul_right _ hn₁
      · have hsplit : n * 2 ^ (e + 1 + (b - a)) = n * 2 ^ (b - a) * 2 ^ (e + 1) := by
          rw [pow_add, Nat.mul_comm (2 ^ (e + 1)), Nat.mul_assoc]
        calc n * 2 ^ (e + 1 + (b - a)) = n * 2 ^ (b - a) * 2 ^ (e + 1) := hsplit
          _ < d * 2 ^ (e + 1) := Nat.mul_lt_mul_of_pos_right (by omega) (Nat.two_pow_pos _)
          _ = 2 * d * 2 ^ e := by
            rw [pow_succ]
            ring

theorem floorLog2_lt {n d c : Nat} (hn : 0 < n) (hd : 0 < d) (h : n < d * 2 ^ c) :
    floorLog2 n d < c := by
  by_contra hcon
  obtain ⟨e, he⟩ : ∃ e : Nat, floorLog2 n d + 0 = e := ⟨(floorLog2 n d).toNat, by omega⟩
  have hlow := (floorLog2_spec hn hd he).1
  rw [pow_zero, Nat.mul_one] at hlow
  have : d * 2 ^ c ≤ d * 2 ^ e := Nat.mul_le_mul_left _ (Nat.pow_le_pow_right (by decide) (by omega))
  omega

theorem neg_le_floorLog2 {n d c : Nat} (hn : 0 < n) (hd : 0 < d) (h : d ≤ n * 2 ^ c) :
    -(c : Int) ≤ floorLog2 n d := by
  by_contra hcon
  obtain ⟨s, hs⟩ : ∃ s : Nat, floorLog2 n d + s = 0 := ⟨(-floorLog2 n d).toNat, by omega⟩
  have hup := (floorLog2_spec hn hd hs).2
  rw [pow_zero, Nat.mul_one] at hup
  have : n * 2 ^ (c + 1) ≤ n * 2 ^ s :=
    Nat.mul_le_mul_left _ (Nat.pow_le_pow_right (by decide) (by omega))
  rw [pow_succ, ← Nat.mul_assoc] at this
  omega

/-- Scaled so that the binade's top bit sits at bit 52, the rounded significand has 53 bits, or
is `2 ^ 53` after a carry. -/
theorem roundHalfEven_mem_binade {n d k : Nat} (hn : 0 < n) (hd : 0 < d)
    (hk : floorLog2 n d + k = 52) :
    2 ^ 52 ≤ roundHalfEven (n * 2 ^ k) d ∧ roundHalfEven (n * 2 ^ k) d ≤ 2 ^ 53 := by
  obtain ⟨hlo, hhi⟩ := floorLog2_spec hn hd hk
  constructor
  · exact le_roundHalfEven hd (by rw [Nat.mul_comm]; exact hlo)
  · apply roundHalfEven_le hd
    calc n * 2 ^ k < 2 * d * 2 ^ 52 := hhi
      _ = 2 ^ 53 * d := by ring

namespace Binary64

/-! ## Packing a double -/

/-- A 53-bit significand and an exponent of the normal range pack into a word that reads back
the same sign, significand and exponent. -/
theorem encode_normal (neg : Bool) {m : Nat} {q : Int} (hm₁ : 2 ^ 52 ≤ m) (hm₂ : m < 2 ^ 53)
    (hq₁ : -1074 ≤ q) (hq₂ : q ≤ 971) :
    (encode neg m q).sign = neg ∧ (encode neg m q).isFinite = true ∧
      (encode neg m q).significand = m ∧ (encode neg m q).exponent = q := by
  have hlog : m.log2 = 52 := (Nat.log2_eq_iff (by omega)).2 ⟨hm₁, hm₂⟩
  have hm0 : m ≠ 0 := by omega
  -- the word holds the sign, the biased exponent `q + 1075` and the significand without its
  -- hidden bit
  have hbits : (encode neg m q).bits.toNat =
      (if neg then 2 ^ 63 else 0) + ((q + 1075).toNat * 2 ^ 52 + (m - 2 ^ 52)) := by
    have hmax : max (q + (52 : Nat) - 52) (-1074) = q := by omega
    simp only [encode, hm0, if_false, hlog, hmax, le_refl, if_true, sub_self, Int.toNat_zero,
      Nat.pow_eq, pow_zero, Nat.mul_one, if_neg (Nat.not_lt.2 hm₁), UInt64.toNat_ofNat']
    apply Nat.mod_eq_of_lt
    have : (q + 1075).toNat ≤ 2046 := by omega
    simp only [Nat.reducePow] at hm₂ ⊢
    split <;> omega
  have hB : 1 ≤ (q + 1075).toNat ∧ (q + 1075).toNat ≤ 2046 := by omega
  have hq : (((q + 1075).toNat : Nat) : Int) - 1075 = q := by omega
  generalize (q + 1075).toNat = B at hbits hB hq
  simp only [sign, isFinite, significand, exponent, biasedExponent, fraction, hbits, Nat.pow_eq,
    Nat.reducePow] at hm₁ hm₂ ⊢
  -- the sign bit, the exponent field and the fraction field read back what was packed
  have hfields : ∀ S : Nat, S = 0 ∨ S = 9223372036854775808 →
      (S + (B * 4503599627370496 + (m - 4503599627370496))) / 4503599627370496 % 2048 = B ∧
      (S + (B * 4503599627370496 + (m - 4503599627370496))) % 4503599627370496 =
        m - 4503599627370496 ∧
      (S + (B * 4503599627370496 + (m - 4503599627370496))) / 9223372036854775808 =
        S / 9223372036854775808 := by
    intro S hS
    omega
  cases neg
  · obtain ⟨h₁, h₂, h₃⟩ := hfields 0 (.inl rfl)
    simp only [Bool.false_eq_true, if_false, h₁, h₂, h₃]
    exact ⟨by decide, by simp; omega, by rw [if_neg (by omega)]; omega,
      by rw [if_neg (by omega)]; omega⟩
  · obtain ⟨h₁, h₂, h₃⟩ := hfields 9223372036854775808 (.inr rfl)
    simp only [if_true, h₁, h₂, h₃]
    exact ⟨by decide, by simp; omega, by rw [if_neg (by omega)]; omega,
      by rw [if_neg (by omega)]; omega⟩

/-! ## Rounding a ratio -/

/-- Zero is the zero of the given sign, whose magnitude is zero over a positive
denominator. -/
theorem ofRat_zero (neg : Bool) (d : Nat) :
    (ofRat neg 0 d).sign = neg ∧ (ofRat neg 0 d).isFinite = true ∧
      ∃ den, 0 < den ∧ (ofRat neg 0 d).magnitude = (0, den) := by
  have hround : FloatFormat.binary64.round 0 d = .finite 0 (-1074) := by
    simp [FloatFormat.round, FloatFormat.binary64]
  unfold ofRat
  rw [hround]
  -- the denominator is a power of two, left unevaluated
  have hpos : ∀ k, 0 < Nat.pow 2 k := fun k => Nat.pow_pos (by decide)
  cases neg <;> exact ⟨rfl, rfl, _, hpos _, rfl⟩

/-- Zero rounds the same whatever its denominator. -/
theorem ofRat_zero_congr (neg : Bool) (d d' : Nat) : ofRat neg 0 d = ofRat neg 0 d' := by
  have hround : ∀ d, FloatFormat.binary64.round 0 d = .finite 0 (-1074) := by
    intro d
    simp [FloatFormat.round, FloatFormat.binary64]
  unfold ofRat
  rw [hround, hround]

/-- In the normal range, rounding `n / d` takes the 53-bit significand
`roundHalfEven (n * 2 ^ k) d`, `k` placing the binade's top bit at bit 52, and carries into the
next binade when that significand reaches `2 ^ 53`. -/
theorem round_binary64 {n d k : Nat} (hn : 0 < n) (hd : 0 < d) (he₁ : -1022 ≤ floorLog2 n d)
    (hk : floorLog2 n d + k = 52) (hk₂ : 2 ≤ k) :
    FloatFormat.binary64.round n d =
      if roundHalfEven (n * 2 ^ k) d = 2 ^ 53 then .finite (2 ^ 52) (1 - k)
      else .finite (roundHalfEven (n * 2 ^ k) d) (-k) := by
  have hmax : max (floorLog2 n d) (-1022) = floorLog2 n d := max_eq_left he₁
  have hq : floorLog2 n d - ((53 - 1 : Nat) : Int) = -k := by omega
  have hq' : ¬ (0 ≤ -(k : Int)) := by omega
  have hk' : (-(-(k : Int))).toNat = k := by omega
  simp only [FloatFormat.round, FloatFormat.binary64, Nat.pos_iff_ne_zero.1 hn,
    Nat.pos_iff_ne_zero.1 hd, or_self, if_false, hmax, hq, hq', hk', Nat.pow_eq]
  -- the carry into the next binade, and no overflow below `2 ^ 1023`
  by_cases hm : roundHalfEven (n * 2 ^ k) d = 2 ^ 53
  · rw [if_pos hm, if_pos hm, if_neg (by omega), hm]
    congr 1
    omega
  · rw [if_neg hm, if_neg hm, if_neg (by omega)]

/-- The double nearest to `± n / d`, in the normal range below `2 ^ 50`: its sign, and its
magnitude as the rounded significand over `2 ^ k`, or `2 ^ 52` over `2 ^ (k - 1)` after a
carry. -/
theorem ofRat_normal (neg : Bool) {n d k : Nat} (hn : 0 < n) (hd : 0 < d)
    (he₁ : -1022 ≤ floorLog2 n d) (hk : floorLog2 n d + k = 52) (hk₂ : 2 ≤ k) :
    (ofRat neg n d).sign = neg ∧ (ofRat neg n d).isFinite = true ∧
      (ofRat neg n d).magnitude =
        if roundHalfEven (n * 2 ^ k) d = 2 ^ 53 then (2 ^ 52, 2 ^ (k - 1))
        else (roundHalfEven (n * 2 ^ k) d, 2 ^ k) := by
  obtain ⟨hlo, hhi⟩ := roundHalfEven_mem_binade hn hd hk
  unfold ofRat
  rw [round_binary64 hn hd he₁ hk hk₂]
  by_cases hm : roundHalfEven (n * 2 ^ k) d = 2 ^ 53
  · rw [if_pos hm, if_pos hm]
    obtain ⟨hs, hf, hsig, hexp⟩ :=
      encode_normal neg (m := 2 ^ 52) (q := 1 - k) le_rfl
        (Nat.pow_lt_pow_right (by decide) (by decide)) (by omega) (by omega)
    refine ⟨hs, hf, ?_⟩
    have hneg : ¬ (0 ≤ (1 - k : Int)) := by omega
    have hk' : (-(1 - k : Int)).toNat = k - 1 := by omega
    simp only [ofRounded, magnitude, hsig, hexp, scaleByTwo, hneg, if_false, hk', Nat.pow_eq]
  · rw [if_neg hm, if_neg hm]
    obtain ⟨hs, hf, hsig, hexp⟩ :=
      encode_normal neg (m := roundHalfEven (n * 2 ^ k) d) (q := -k) hlo (by omega) (by omega)
        (by omega)
    refine ⟨hs, hf, ?_⟩
    have hneg : ¬ (0 ≤ (-k : Int)) := by omega
    have hk' : (-(-k : Int)).toNat = k := by omega
    simp only [ofRounded, magnitude, hsig, hexp, scaleByTwo, hneg, if_false, hk', Nat.pow_eq]

/-- The binade of a ratio below `2 ^ 34` with a denominator below `2 ^ 20` lies between `-20`
and `33`: such a ratio is a normal double whose last bit is worth at most `2 ^ -19`. -/
theorem exists_scale {n d : Nat} (hn : 0 < n) (hd : 0 < d) (hd₂ : d < 2 ^ 20)
    (hn₂ : n < d * 2 ^ 34) : ∃ k : Nat, floorLog2 n d + k = 52 ∧ 19 ≤ k ∧ k ≤ 72 := by
  have hup := floorLog2_lt hn hd hn₂
  have hlow := neg_le_floorLog2 (c := 20) hn hd
    (calc d ≤ 2 ^ 20 := hd₂.le
      _ ≤ n * 2 ^ 20 := Nat.le_mul_of_pos_left _ hn)
  exact ⟨(52 - floorLog2 n d).toNat, by omega, by omega, by omega⟩

/-- Below `2 ^ 34`, with a denominator below `2 ^ 20`, the double nearest to `± n / d` cuts
toward zero to the integer part of `n / d`, with the sign: rounding never crosses an
integer. -/
theorem trunc?_ofRat (neg : Bool) {n d : Nat} (hd : 0 < d) (hd₂ : d < 2 ^ 20)
    (hn : n < d * 2 ^ 34) :
    (ofRat neg n d).trunc? = some (if neg then -((n / d : Nat) : Int) else ((n / d : Nat) : Int)) := by
  rcases Nat.eq_zero_or_pos n with rfl | hn₀
  · obtain ⟨hs, hf, den, -, hmag⟩ := ofRat_zero neg d
    simp only [trunc?, hf, if_true, hmag, hs, Nat.zero_div]
  obtain ⟨k, hk, hk₁, hk₂⟩ := exists_scale hn₀ hd hd₂ hn
  obtain ⟨hs, hf, hmag⟩ := ofRat_normal neg hn₀ hd (by omega) hk (by omega)
  -- the magnitude's integer part is that of the rounded significand over `2 ^ k`
  have hdiv : (ofRat neg n d).magnitude.1 / (ofRat neg n d).magnitude.2 = n / d := by
    have hround := roundHalfEven_mul_pow_div n d k hd
      (calc d < 2 ^ 20 := hd₂
        _ ≤ 2 * 2 ^ k := by rw [← pow_succ']; exact Nat.pow_le_pow_right (by decide) (by omega))
    rw [hmag]
    split
    · rename_i hm
      rw [← hround, hm]
      apply div_eq_div_of_mul_eq (Nat.two_pow_pos _) (Nat.two_pow_pos _)
      rw [← pow_add, ← pow_add]
      congr 1
      omega
    · exact hround
  simp only [trunc?, hf, if_true, hs]
  rw [hdiv]

/-- An integer `c` below `2 ^ 51`, given as `c * d / d`, is held exactly: the double's magnitude
is `c * 2 ^ k / 2 ^ k`. -/
theorem magnitude_ofRat_mul (neg : Bool) {c d : Nat} (hc : 0 < c) (hd : 0 < d)
    (hc₂ : c < 2 ^ 51) :
    (ofRat neg (c * d) d).sign = neg ∧ (ofRat neg (c * d) d).isFinite = true ∧
      ∃ k, (ofRat neg (c * d) d).magnitude = (c * 2 ^ k, 2 ^ k) := by
  have hcd : 0 < c * d := Nat.mul_pos hc hd
  have hlow := neg_le_floorLog2 (c := 0) hcd hd
    (by rw [pow_zero, Nat.mul_one]; exact Nat.le_mul_of_pos_left d hc)
  have hup := floorLog2_lt hcd hd
    (show c * d < d * 2 ^ 51 by rw [Nat.mul_comm]; exact Nat.mul_lt_mul_of_pos_left hc₂ hd)
  obtain ⟨k, hk⟩ : ∃ k : Nat, floorLog2 (c * d) d + k = 52 :=
    ⟨(52 - floorLog2 (c * d) d).toNat, by omega⟩
  obtain ⟨hs, hf, hmag⟩ := ofRat_normal neg hcd hd (by omega) hk (by omega)
  -- the significand is `c * 2 ^ k` exactly, below `2 ^ 53`
  have hexact : roundHalfEven (c * d * 2 ^ k) d = c * 2 ^ k := by
    rw [roundHalfEven_of_dvd ⟨c * 2 ^ k, by ring⟩, Nat.mul_right_comm,
      Nat.mul_div_cancel _ hd]
  have hsmall : c * 2 ^ k < 2 ^ 53 := by
    have h := (floorLog2_spec hcd hd hk).2
    apply Nat.lt_of_mul_lt_mul_left (a := d)
    calc d * (c * 2 ^ k) = c * d * 2 ^ k := by ring
      _ < 2 * d * 2 ^ 52 := h
      _ = d * 2 ^ 53 := by ring
  rw [hexact, if_neg (by omega)] at hmag
  exact ⟨hs, hf, k, hmag⟩

/-- An integer below `2 ^ 51` held as a double cuts to itself, with the sign. -/
theorem trunc?_ofRat_mul (neg : Bool) {c d : Nat} (hd : 0 < d) (hc₂ : c < 2 ^ 51) :
    (ofRat neg (c * d) d).trunc? = some (if neg then -(c : Int) else c) := by
  rcases Nat.eq_zero_or_pos c with rfl | hc
  · obtain ⟨hs, hf, den, -, hmag⟩ := ofRat_zero neg d
    rw [Nat.zero_mul]
    simp only [trunc?, hf, if_true, hmag, hs, Nat.zero_div]
  · obtain ⟨hs, hf, k, hmag⟩ := magnitude_ofRat_mul neg hc hd hc₂
    simp only [trunc?, hf, if_true, hmag, hs, Nat.mul_div_cancel _ (Nat.two_pow_pos k)]

/-- An integer below `2 ^ 51` held as a double splits into itself and a zero fraction. -/
theorem splitFraction_ofRat_mul_of_lt (neg : Bool) {c d : Nat} (hd : 0 < d) (hc₂ : c < 2 ^ 51) :
    (ofRat neg (c * d) d).splitFraction = (ofRat neg c 1, ofRat neg 0 1) := by
  rcases Nat.eq_zero_or_pos c with rfl | hc
  · obtain ⟨hs, -, den, -, hmag⟩ := ofRat_zero neg d
    rw [Nat.zero_mul]
    simp only [splitFraction, hmag, hs, Nat.zero_div, Nat.zero_mod]
    rw [ofRat_zero_congr neg den 1]
  · obtain ⟨hs, -, k, hmag⟩ := magnitude_ofRat_mul neg hc hd hc₂
    simp only [splitFraction, hmag, hs, Nat.mul_div_cancel _ (Nat.two_pow_pos k),
      Nat.mul_mod_left]
    rw [ofRat_zero_congr neg (2 ^ k) 1]

/-! ## The fraction of a rounded ratio -/

/-- In the normal range below `2 ^ 51`, the double nearest to `± n / d` is `a / 2 ^ j` with a
53-bit `a`, within half a unit of its last place of `n / d`; that place is worth at most
`2 ^ -51` times `n / d`. -/
theorem magnitude_ofRat_bound (neg : Bool) {n d : Nat} (hn : 0 < n) (hd : 0 < d)
    (hlo : d ≤ n * 2 ^ 1022) (hhi : n < d * 2 ^ 51) :
    (ofRat neg n d).sign = neg ∧ (ofRat neg n d).isFinite = true ∧
      ∃ a j, (ofRat neg n d).magnitude = (a, 2 ^ j) ∧ a < 2 ^ 53 ∧
        2 * n * 2 ^ j ≤ 2 * a * d + d ∧ 2 * a * d ≤ 2 * n * 2 ^ j + d ∧
        d * 2 ^ 51 ≤ n * 2 ^ j := by
  have hlow := neg_le_floorLog2 hn hd hlo
  have hup := floorLog2_lt hn hd hhi
  obtain ⟨k, hk⟩ : ∃ k : Nat, floorLog2 n d + k = 52 := ⟨(52 - floorLog2 n d).toNat, by omega⟩
  obtain ⟨hs, hf, hmag⟩ := ofRat_normal neg hn hd (by omega) hk (by omega)
  obtain ⟨herr₁, herr₂⟩ := roundHalfEven_error (n * 2 ^ k) hd
  obtain ⟨-, hbin⟩ := roundHalfEven_mem_binade hn hd hk
  have hscale := (floorLog2_spec hn hd hk).1
  refine ⟨hs, hf, ?_⟩
  rw [hmag]
  split
  · -- a carry into the next binade: the same value over half the denominator
    rename_i hm
    rw [hm] at herr₁ herr₂
    have hsplit : n * 2 ^ k = 2 * (n * 2 ^ (k - 1)) := by
      rw [← Nat.mul_assoc, Nat.mul_comm 2 n, Nat.mul_assoc, ← pow_succ']
      congr 2
      omega
    rw [hsplit] at herr₁ herr₂ hscale
    refine ⟨2 ^ 52, k - 1, rfl, by norm_num, ?_, ?_, ?_⟩
    · rw [Nat.mul_assoc 2 n]
      norm_num at herr₁ ⊢
      omega
    · rw [Nat.mul_assoc 2 n]
      norm_num at herr₂ ⊢
      omega
    · apply Nat.le_of_mul_le_mul_left _ (by decide : 0 < 2)
      calc 2 * (d * 2 ^ 51) = d * 2 ^ 52 := by ring
        _ ≤ 2 * (n * 2 ^ (k - 1)) := hscale
  · rename_i hm
    refine ⟨_, k, rfl, by omega, by rw [Nat.mul_assoc 2 n]; exact herr₁,
      by rw [Nat.mul_assoc 2 n]; exact herr₂, ?_⟩
    calc d * 2 ^ 51 ≤ d * 2 ^ 52 := Nat.mul_le_mul_left _ (Nat.pow_le_pow_right (by decide) (by omega))
      _ ≤ n * 2 ^ k := hscale

/-- The last place of a value below `2 ^ e` is below `2 ^ (e - 51)`: where `n / d` is at least
`2 ^ 51` places of `2 ^ -j` and below `2 ^ e`, then `52 ≤ e + j`. -/
theorem le_exponent_add_of_unit {n d e j : Nat} (hunit : d * 2 ^ 51 ≤ n * 2 ^ j)
    (hn : n < d * 2 ^ e) : 52 ≤ e + j := by
  have : 2 ^ 51 < 2 ^ (e + j) := by
    apply Nat.lt_of_mul_lt_mul_left (a := d)
    calc d * 2 ^ 51 ≤ n * 2 ^ j := hunit
      _ < d * 2 ^ e * 2 ^ j := Nat.mul_lt_mul_of_pos_right hn (Nat.two_pow_pos j)
      _ = d * 2 ^ (e + j) := by rw [pow_add, Nat.mul_assoc]
  have := (Nat.pow_lt_pow_iff_right (by decide)).1 this
  omega

/-- The double nearest to `± n / d`, below `2 ^ e` for some `e ≤ 34`, with `d` below `2 ^ 18`,
is `a / 2 ^ j` with a 53-bit `a` and `j` at least `52 - e`, within half a unit of its last place
of `n / d`. -/
theorem magnitude_ofRat_error (neg : Bool) {n d e : Nat} (hn : 0 < n) (hd : 0 < d)
    (hd₂ : d < 2 ^ 18) (he : e ≤ 34) (hn₂ : n < d * 2 ^ e) :
    (ofRat neg n d).sign = neg ∧ (ofRat neg n d).isFinite = true ∧
      ∃ a j, (ofRat neg n d).magnitude = (a, 2 ^ j) ∧ 52 ≤ e + j ∧ j ≤ 72 ∧ a < 2 ^ 53 ∧
        2 * n * 2 ^ j ≤ 2 * a * d + d ∧ 2 * a * d ≤ 2 * n * 2 ^ j + d := by
  have hlo : d ≤ n * 2 ^ 1022 :=
    calc d ≤ 2 ^ 1022 := by omega
      _ ≤ n * 2 ^ 1022 := Nat.le_mul_of_pos_left _ hn
  have hhi : n < d * 2 ^ 51 :=
    calc n < d * 2 ^ e := hn₂
      _ ≤ d * 2 ^ 51 := Nat.mul_le_mul_left _ (Nat.pow_le_pow_right (by decide) (by omega))
  obtain ⟨hs, hf, a, j, hmag, ha, h₁, h₂, hunit⟩ := magnitude_ofRat_bound neg hn hd hlo hhi
  have hj : 52 ≤ e + j := le_exponent_add_of_unit hunit hn₂
  -- and above `2 ^ -73`, since the ratio is at least `2 ^ -18`
  have hj₂ : j ≤ 72 := by
    have : 2 ^ j < 2 ^ 73 :=
      calc 2 ^ j ≤ n * 2 ^ j := Nat.le_mul_of_pos_left _ hn
        _ < 2 ^ 55 * 2 ^ 18 := by
          have had : a * d < 2 ^ 53 * 2 ^ 18 := Nat.mul_lt_mul'' ha hd₂
          linarith
        _ = 2 ^ 73 := by norm_num
    have := (Nat.pow_lt_pow_iff_right (by decide)).1 this
    omega
  exact ⟨hs, hf, a, j, hmag, hj, hj₂, ha, h₁, h₂⟩

/-- A fraction `c / 2 ^ j` with a 53-bit numerator is held exactly: the double's magnitude is the
same ratio. -/
theorem magnitude_ofRat_pow_two (neg : Bool) {c j : Nat} (hc : 0 < c) (hcj : c < 2 ^ j)
    (hc₂ : c < 2 ^ 53) (hj : j ≤ 1000) :
    (ofRat neg c (2 ^ j)).sign = neg ∧ ∃ c' b', (ofRat neg c (2 ^ j)).magnitude = (c', b') ∧
      0 < b' ∧ c' * 2 ^ j = c * b' := by
  have hb : 0 < 2 ^ j := Nat.two_pow_pos j
  have hlt := floorLog2_lt (c := 0) hc hb (by simpa using hcj)
  have hge := neg_le_floorLog2 (c := j) hc hb (Nat.le_mul_of_pos_left _ hc)
  obtain ⟨k, hk⟩ : ∃ k : Nat, floorLog2 c (2 ^ j) + k = 52 :=
    ⟨(52 - floorLog2 c (2 ^ j)).toNat, by omega⟩
  obtain ⟨hs, -, hmag⟩ := ofRat_normal neg hc hb (by omega) hk (by omega)
  -- the scale puts the top bit of `c` at bit 52, so it is at least the denominator's
  have hjk : j ≤ k := by
    have hspec := (floorLog2_spec hc hb hk).1
    have : 2 ^ (j + 52) < 2 ^ (53 + k) := by
      rw [pow_add, pow_add]
      calc 2 ^ j * 2 ^ 52 ≤ c * 2 ^ k := hspec
        _ < 2 ^ 53 * 2 ^ k := Nat.mul_lt_mul_of_pos_right hc₂ (Nat.two_pow_pos k)
    have := (Nat.pow_lt_pow_iff_right (by decide)).1 this
    omega
  have hpow : 2 ^ k = 2 ^ (k - j) * 2 ^ j := by
    rw [← pow_add]
    congr 1
    omega
  have hexact : roundHalfEven (c * 2 ^ k) (2 ^ j) = c * 2 ^ (k - j) := by
    rw [roundHalfEven_of_dvd ⟨c * 2 ^ (k - j), by rw [hpow]; ring⟩, hpow, ← Nat.mul_assoc,
      Nat.mul_div_cancel _ hb]
  refine ⟨hs, ?_⟩
  rw [hmag, hexact]
  split
  · rename_i hm
    refine ⟨_, _, rfl, Nat.two_pow_pos _, ?_⟩
    have hk1 : 2 ^ k = 2 ^ (k - 1) * 2 := by
      rw [← pow_succ]
      congr 1
      omega
    apply Nat.eq_of_mul_eq_mul_right (by decide : 0 < 2)
    calc 2 ^ 52 * 2 ^ j * 2 = c * 2 ^ (k - j) * 2 ^ j := by rw [hm]; ring
      _ = c * 2 ^ (k - 1) * 2 := by rw [Nat.mul_assoc, ← hpow, hk1, Nat.mul_assoc]
  · exact ⟨_, _, rfl, Nat.two_pow_pos _, by rw [Nat.mul_assoc, ← hpow]⟩

/-- Below `2 ^ e` for some `e ≤ 34`, with `d` below `2 ^ 18`, the double nearest to `± n / d`
splits into the integer part of `n / d` and a fraction `c / 2 ^ j`, `j` at least `52 - e`, within
half a unit of its last place of the fraction of `n / d`. -/
theorem splitFraction_ofRat (neg : Bool) {n d e : Nat} (hd : 0 < d) (hd₂ : d < 2 ^ 18)
    (he : e ≤ 34) (hn₂ : n < d * 2 ^ e) :
    ∃ c j, (ofRat neg n d).splitFraction = (ofRat neg (n / d) 1, ofRat neg c (2 ^ j)) ∧
      52 ≤ e + j ∧ j ≤ 72 ∧ c < 2 ^ j ∧ c < 2 ^ 53 ∧
      2 * (n % d) * 2 ^ j ≤ 2 * c * d + d ∧ 2 * c * d ≤ 2 * (n % d) * 2 ^ j + d := by
  rcases Nat.eq_zero_or_pos n with rfl | hn
  · -- zero splits into two zeros
    obtain ⟨hs, -, den, -, hmag⟩ := ofRat_zero neg d
    refine ⟨0, 52, ?_, by omega, by norm_num, Nat.two_pow_pos _, by norm_num, by simp, by simp⟩
    simp only [splitFraction, hmag, hs, Nat.zero_div, Nat.zero_mod]
    rw [ofRat_zero_congr neg den (2 ^ 52)]
  obtain ⟨hs, -, a, j, hmag, hj, hj₂, ha, h₁, h₂⟩ := magnitude_ofRat_error neg hn hd hd₂ he hn₂
  have hdj : d < 2 ^ j := lt_of_lt_of_le hd₂ (Nat.pow_le_pow_right (by decide) (by omega))
  have heven : 2 ∣ 2 ^ j := dvd_pow_self 2 (by omega)
  obtain ⟨hdiv, -, -⟩ := div_and_half_of_error hd hdj heven h₁ h₂
  refine ⟨a % 2 ^ j, j, ?_, hj, hj₂, Nat.mod_lt _ (Nat.two_pow_pos j),
    lt_of_le_of_lt (Nat.mod_le _ _) ha, ?_, ?_⟩
  · simp only [splitFraction, hmag, hs, hdiv]
  -- the integer parts cancel, leaving the fractions
  all_goals
    have hn' := Nat.div_add_mod n d
    have ha' := Nat.div_add_mod a (2 ^ j)
    rw [hdiv] at ha'
    generalize n / d = q at hn' ha'
    generalize n % d = r at hn' ⊢
    generalize a % 2 ^ j = R at ha' ⊢
    subst hn' ha'
    linarith

/-- The exact value of a fraction `c / 2 ^ j` held as a double: a signed ratio equal to it. -/
theorem ratio_ofRat_pow_two (neg : Bool) {c j : Nat} (hcj : c < 2 ^ j) (hc₂ : c < 2 ^ 53)
    (hj : j ≤ 1000) :
    ∃ c' b' : Nat, (ofRat neg c (2 ^ j)).ratio = (if neg then -(c' : Int) else c', b') ∧ 0 < b' ∧
      c' * 2 ^ j = c * b' := by
  rcases Nat.eq_zero_or_pos c with rfl | hc
  · obtain ⟨hs, -, den, hden, hmag⟩ := ofRat_zero neg (2 ^ j)
    exact ⟨0, den, by simp [ratio, hmag, hs], hden, by simp⟩
  · obtain ⟨hs, c', b', hmag, hb', h⟩ := magnitude_ofRat_pow_two neg hc hcj hc₂ hj
    exact ⟨c', b', by simp [ratio, hmag, hs], hb', h⟩

end Binary64

end Ingest
