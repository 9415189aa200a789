import Ingest.Proofs.Tai64Label

/-!
# Reading TAI64N labels

A TAI64N label is an optional `@` and 24 hexadecimal digits, in either case (`Tai64.IsLabel`):
16 for a seconds field `S` and 8 for a nanoseconds field `N`. Bit 63 of `S` is reserved, and
with it clear `S` is a 63-bit two's-complement count (`Tai64.signedSeconds`). `Tai64.read`
reads the label as 1970 plus `signedSeconds S * 10 ^ 9 + N` nanoseconds (`Tai64.labelNanos`),
rounded to the nearest microsecond with ties to even (`IsRoundHalfEven`), and fails exactly
when the label is malformed, has bit 63 set, or names an instant outside the years 1 to 9999.
The result depends on the two fields only through that sum, so a nanosecond count of a second
or more carries into the seconds.

The nanoseconds reach the date as the double nearest to `N / 1000` microseconds. That double
is close enough to `N / 1000` to keep its integer part and the side of one half its fraction
lies on (`Binary64.splitFraction_ofRat`), so the rounding done on it is the rounding of the
exact count (`DateTime.ofTai64_nanos`).

The main statement is `tai64n_read_spec`.
-/

namespace Ingest.Time

/-! ## Rounding to the nearest, ties to even -/

/-- `m` is `x / d` rounded to the nearest integer, a tie going to the even neighbour. -/
def IsRoundHalfEven (x : Int) (d : Nat) (m : Int) : Prop :=
  |2 * (m * d - x)| < d ∨ (|2 * (m * d - x)| = d ∧ m % 2 = 0)

/-- The nearest integer, ties to even, without absolute values. -/
theorem isRoundHalfEven_iff {x : Int} {d : Nat} {m : Int} :
    IsRoundHalfEven x d m ↔
      (-(d : Int) < 2 * (m * d - x) ∧ 2 * (m * d - x) < d) ∨
      ((2 * (m * d - x) = d ∨ 2 * (m * d - x) = -d) ∧ m % 2 = 0) := by
  rw [IsRoundHalfEven, abs_lt, abs_eq (Int.natCast_nonneg d)]

/-- There is one integer nearest to `x / d`, ties going to the even one. -/
theorem IsRoundHalfEven.unique {x : Int} {d : Nat} {m m' : Int} (hd : 0 < d)
    (h : IsRoundHalfEven x d m) (h' : IsRoundHalfEven x d m') : m = m' := by
  rw [isRoundHalfEven_iff] at h h'
  have hb : -(d : Int) ≤ 2 * (m * d - x) ∧ 2 * (m * d - x) ≤ d := by omega
  have hb' : -(d : Int) ≤ 2 * (m' * d - x) ∧ 2 * (m' * d - x) ≤ d := by omega
  -- within half a unit each, the two candidates are at most one apart
  have hclose : m ≤ m' + 1 ∧ m' ≤ m + 1 := by
    constructor
    · by_contra hcon
      have : 0 ≤ (m - m' - 2) * (d : Int) := mul_nonneg (by omega) (by omega)
      linarith
    · by_contra hcon
      have : 0 ≤ (m' - m - 2) * (d : Int) := mul_nonneg (by omega) (by omega)
      linarith
  -- one apart, both would be ties, and two integers one apart are not both even
  obtain ⟨k, rfl⟩ : ∃ k, m = m' + k := ⟨m - m', by ring⟩
  rw [add_mul] at h
  generalize m' * d = P at h h'
  rcases (by omega : k = 0 ∨ k = 1 ∨ k = -1) with rfl | rfl | rfl
  · simp
  · rw [one_mul] at h
    omega
  · rw [neg_one_mul] at h
    omega

/-- Rounding `q * d + r`, for a remainder `r < d`, to `q` when `r` is below half of `d`, to
`q + 1` when it is above, and to the even one of the two on a tie, is rounding to the nearest
with ties to even. -/
theorem isRoundHalfEven_of_rem {x q e : Int} {r d : Nat} (hx : x = q * d + r) (hr : r < d)
    (he : (2 * r < d ∧ e = 0) ∨ (d < 2 * r ∧ e = 1) ∨
      (2 * r = d ∧ (e = 0 ∨ e = 1) ∧ (q + e) % 2 = 0)) :
    IsRoundHalfEven x d (q + e) := by
  rw [isRoundHalfEven_iff, add_mul, hx]
  rcases he with ⟨h, rfl⟩ | ⟨h, rfl⟩ | ⟨h, rfl | rfl, hev⟩ <;> simp only [zero_mul, one_mul] <;>
    omega

/-! ## Dates a number of microseconds after 1970 -/

namespace DateTime

/-- A count of microseconds from the start of year 1 that a date of the years 1 to 9999
holds. -/
def InRange (x : Int) : Prop := 0 ≤ x ∧ x < maxOrdinal * dayMicros

/-- The date and time, UTC, `total` microseconds after 1970, made the way `ofTai64` makes it
once its microseconds are whole: a duration whose days must fit a 32-bit count and then stay
within 999999999, added to 1970. -/
def afterEpoch (total : Int) : Except Error DateTime :=
  let days := total / (dayMicros : Int)
  if days < -Int.pow 2 31 || days ≥ Int.pow 2 31 then .error .dayCountOverflow
  else if days.natAbs > 999999999 then .error (.dayRange days)
  else ofLocalMicros (epochMicros + total) (some Zone.utc)

/-- `ofTai64` adds to the seconds the whole microseconds of its double, and one more when the
fraction is above one half, or is one half and the sum so far is odd. -/
theorem ofTai64_eq_afterEpoch (σ : Int) {x : Binary64} {w n : Int} {d : Nat}
    (hw : x.splitFraction.1.trunc? = some w) (hr : x.splitFraction.2.ratio = (n, d)) :
    ofTai64 σ x = afterEpoch (σ * secondMicros + w +
      if 2 * n > d then 1 else if 2 * n < d then 0
      else if (σ * secondMicros + w) % 2 == 0 then 0 else 1) := by
  unfold ofTai64
  generalize x.splitFraction = p at hw hr ⊢
  obtain ⟨whole, fraction⟩ := p
  simp only at hw hr
  simp only [hw, hr, Option.getD_some]
  rfl

/-- A count outside the years 1 to 9999 has no date. -/
theorem ofLocalMicros_inRange {x : Int} {z : Option Zone} {t : DateTime}
    (h : ofLocalMicros x z = .ok t) : InRange x := by
  unfold ofLocalMicros at h
  dsimp only at h
  split at h
  · cases h
  · rename_i hin
    simp only [Bool.or_eq_true, decide_eq_true_eq, not_or] at hin
    unfold InRange
    unfold maxOrdinal dayMicros secondMicros at *
    omega

/-- A date `total` microseconds after 1970 exists exactly when that instant falls in the years
1 to 9999; it is then in UTC, at that instant. -/
theorem afterEpoch_ok_iff {total : Int} :
    (∃ t, afterEpoch total = .ok t) ↔ InRange (epochMicros + total) := by
  constructor
  · rintro ⟨t, ht⟩
    unfold afterEpoch at ht
    dsimp only at ht
    split at ht
    · cases ht
    · split at ht
      · cases ht
      · exact ofLocalMicros_inRange ht
  · rintro ⟨h₀, h₁⟩
    obtain ⟨t, ht, -⟩ := ofLocalMicros_localMicros h₀ h₁ (some Zone.utc)
    refine ⟨t, ?_⟩
    -- within the years 1 to 9999 the day count is far inside both limits
    have h31 : Int.pow 2 31 = 2147483648 := rfl
    rw [epochMicros_eq] at h₀ h₁
    unfold afterEpoch
    dsimp only
    unfold maxOrdinal dayMicros secondMicros at *
    rw [if_neg (by simp only [h31, Bool.or_eq_true, decide_eq_true_eq, not_or]; omega),
      if_neg (by omega), epochMicros_eq]
    rw [epochMicros_eq] at ht
    exact ht

theorem afterEpoch_ok {total : Int} {t : DateTime} (h : afterEpoch total = .ok t) :
    t.zone = some Zone.utc ∧ t.utcMicros = epochMicros + total := by
  obtain ⟨h₀, h₁⟩ := afterEpoch_ok_iff.1 ⟨t, h⟩
  obtain ⟨t', ht', hloc, hzone, -⟩ := ofLocalMicros_localMicros h₀ h₁ (some Zone.utc)
  have heq : afterEpoch total = ofLocalMicros (epochMicros + total) (some Zone.utc) := by
    unfold afterEpoch at h ⊢
    dsimp only at h ⊢
    split at h
    · cases h
    · split at h
      · cases h
      · rw [if_neg ‹_›, if_neg ‹_›]
  rw [heq, ht'] at h
  cases h
  refine ⟨hzone, ?_⟩
  unfold utcMicros
  rw [hloc, hzone]
  simp [Zone.utc]

/-- Seconds and a count `N` of nanoseconds below `2 ^ 32`, given as the double nearest to
`N / 1000` microseconds, make the date `σ * 10 ^ 9 + N` nanoseconds after 1970, rounded to the
nearest microsecond with ties to even. -/
theorem ofTai64_nanos (σ : Int) {N : Nat} (hN : N < 2 ^ 32) :
    ∃ m, IsRoundHalfEven (σ * 1000000000 + N) 1000 m ∧
      ofTai64 σ (Binary64.ofRat false N 1000) = afterEpoch m := by
  obtain ⟨c, j, hsplit, hj, hj₂, hcj, hc₂, e₁, e₂⟩ :=
    Binary64.splitFraction_ofRat false (n := N) (d := 1000) (e := 34) (by norm_num) (by norm_num)
      le_rfl (by omega)
  have hw : (Binary64.ofRat false (N / 1000) 1).trunc? = some ((N / 1000 : Nat) : Int) := by
    rw [Binary64.trunc?_ofRat false (by norm_num) (by norm_num) (by omega)]
    simp
  obtain ⟨c', b', hratio, hb', hcb⟩ := Binary64.ratio_ofRat_pow_two false hcj hc₂ (by omega)
  -- the fraction lies on the side of one half that the nanoseconds' remainder does
  have hdj : 1000 < 2 ^ j :=
    lt_of_lt_of_le (by norm_num) (Nat.pow_le_pow_right (by decide) (show 18 ≤ j by omega))
  obtain ⟨-, hlt, hgt⟩ := div_and_half_of_error (a := c) (by norm_num) hdj
    (dvd_pow_self 2 (by omega)) e₁ e₂
  rw [Nat.mod_eq_of_lt hcj, Nat.mod_mod] at hlt hgt
  have hscale : ∀ {u v : Nat}, u * 2 ^ j < v * 2 ^ j ↔ u < v :=
    Nat.mul_lt_mul_right (Nat.two_pow_pos j)
  have hlt' : 2 * c' < b' ↔ 2 * (N % 1000) < 1000 := by
    rw [← hlt, ← hscale, Nat.mul_assoc, hcb, ← Nat.mul_assoc, Nat.mul_comm b',
      Nat.mul_lt_mul_right hb']
  have hgt' : b' < 2 * c' ↔ 1000 < 2 * (N % 1000) := by
    rw [← hgt, ← hscale, Nat.mul_assoc 2 c', hcb, ← Nat.mul_assoc, Nat.mul_comm b',
      Nat.mul_lt_mul_right hb']
  have hratio' : (Binary64.ofRat false N 1000).splitFraction.2.ratio = ((c' : Int), b') := by
    rw [hsplit, hratio]
    rfl
  refine ⟨_, ?_, ofTai64_eq_afterEpoch σ (by rw [hsplit]; exact hw) hratio'⟩
  apply isRoundHalfEven_of_rem (q := σ * secondMicros + (N / 1000 : Nat)) (r := N % 1000)
    (by unfold secondMicros; omega) (Nat.mod_lt _ (by norm_num))
  -- the three ways of rounding the fraction, read through the remainder of the nanoseconds
  split_ifs with habove hbelow heven
  · exact .inr (.inl ⟨hgt'.1 (by exact_mod_cast habove), rfl⟩)
  · exact .inl ⟨hlt'.1 (by exact_mod_cast hbelow), rfl⟩
  · refine .inr (.inr ⟨?_, .inl rfl, ?_⟩)
    · have := mt hgt'.2 (by exact_mod_cast habove)
      have := mt hlt'.2 (by exact_mod_cast hbelow)
      omega
    · simpa using heven
  · refine .inr (.inr ⟨?_, .inr rfl, ?_⟩)
    · have := mt hgt'.2 (by exact_mod_cast habove)
      have := mt hlt'.2 (by exact_mod_cast hbelow)
      omega
    · simp only [beq_iff_eq] at heven
      omega

end DateTime

/-! ## Labels -/

namespace Tai64

/-- `s` is a TAI64N label with digits `cs`: an optional `@`, then 24 hexadecimal digits, 16 for
the seconds and 8 for the nanoseconds. -/
def IsLabel (s : String) (cs : List Char) : Prop :=
  (s.toList = cs ∨ s.toList = '@' :: cs) ∧ cs.length = 24 ∧ ∀ c ∈ cs, isHex c = true

/-- A seconds field read as a 63-bit two's-complement count: bit 62 makes it negative. -/
def signedSeconds (S : Nat) : Int := if S.testBit 62 then (S : Int) - 2 ^ 63 else S

/-- The nanoseconds from 1970 that the fields of a label's digits give, before rounding. -/
def labelNanos (cs : List Char) : Int :=
  signedSeconds (hexValue (cs.take 16)) * 1000000000 + hexValue (cs.drop 16)

/-- Hexadecimal digits hold a number below `16` to the power of their count. -/
theorem hexValue_lt {cs : List Char} (h : ∀ c ∈ cs, isHex c = true) :
    hexValue cs < 16 ^ cs.length := by
  induction cs using List.reverseRecOn with
  | nil => decide
  | append_singleton cs c ih =>
    have hc := (hexValue_single (h c (by simp))).1
    have hcs := ih fun x hx => h x (by simp [hx])
    rw [hexValue_concat, List.length_append, List.length_singleton, pow_succ]
    omega

/-- What `read` does with the characters left once an optional `@` is taken off. -/
def readDigits (cs : List Char) : Except Error DateTime :=
  if cs.length != 24 || !cs.all isHex then .error .tai64Label
  else
    let seconds := hexValue (cs.take 16)
    let nanos := hexValue (cs.drop 16)
    if seconds ≥ Nat.pow 2 63 then .error .tai64Label
    else
      let seconds : Int :=
        if seconds ≥ Nat.pow 2 62 then (seconds : Int) - Int.pow 2 63 else seconds
      DateTime.ofTai64 seconds (Binary64.ofRat false nanos 1000)

/-- `read` takes off a leading `@`, if there is one, and reads the rest as digits. -/
theorem read_eq_readDigits (s : String) :
    ∃ cs, (s.toList = cs ∨ s.toList = '@' :: cs) ∧ (∀ rest, s.toList = '@' :: rest → cs = rest) ∧
      read s = readDigits cs := by
  unfold read
  split
  · rename_i rest hrest
    refine ⟨rest, .inr hrest, fun r h => ?_, rfl⟩
    rw [hrest] at h
    exact (List.cons.inj h).2
  · rename_i hnot
    exact ⟨s.toList, .inl rfl, fun rest h => absurd h (hnot rest), rfl⟩

/-- The digits `read` is left with are those of the label: no digit is an `@`. -/
theorem readDigits_of_isLabel {s : String} {cs : List Char} (h : IsLabel s cs) :
    read s = readDigits cs := by
  obtain ⟨hs, -, hhex⟩ := h
  obtain ⟨cs', hs', hat, hread⟩ := read_eq_readDigits s
  rw [hread]
  have hnotAt : '@' ∉ cs := fun hm => absurd (hhex '@' hm) (by decide)
  rcases hs with hs | hs
  · rcases hs' with hs' | hs'
    · rw [← hs, ← hs']
    · exact absurd (hs ▸ hs' ▸ List.mem_cons_self) hnotAt
  · rw [hat cs hs]

/-- Digits that are no label are refused. -/
theorem readDigits_of_malformed {cs : List Char}
    (h : ¬ (cs.length = 24 ∧ ∀ c ∈ cs, isHex c = true)) : readDigits cs = .error .tai64Label := by
  unfold readDigits
  rw [if_pos]
  simpa [← List.all_eq_true, imp_iff_not_or] using h

/-- The digits of a label whose reserved bit 63 is set are refused. -/
theorem readDigits_of_reserved {cs : List Char} (hlen : cs.length = 24)
    (hhex : ∀ c ∈ cs, isHex c = true) (hbit : (hexValue (cs.take 16)).testBit 63 = true) :
    readDigits cs = .error .tai64Label := by
  unfold readDigits
  rw [if_neg (by simp [hlen, List.all_eq_true.2 hhex])]
  dsimp only
  rw [if_pos]
  rw [Nat.testBit_eq_decide_div_mod_eq, decide_eq_true_eq] at hbit
  show Nat.pow 2 63 ≤ hexValue (cs.take 16)
  rw [Nat.pow_eq]
  omega

/-- The digits of a label with bit 63 clear are read as its signed seconds and its
nanoseconds. -/
theorem readDigits_of_label {cs : List Char} (hlen : cs.length = 24)
    (hhex : ∀ c ∈ cs, isHex c = true) (hbit : (hexValue (cs.take 16)).testBit 63 = false) :
    readDigits cs = DateTime.ofTai64 (signedSeconds (hexValue (cs.take 16)))
      (Binary64.ofRat false (hexValue (cs.drop 16)) 1000) := by
  have hS : hexValue (cs.take 16) < 2 ^ 64 := by
    have hlt : hexValue (cs.take 16) < 16 ^ (cs.take 16).length :=
      hexValue_lt fun c hc => hhex c (List.mem_of_mem_take hc)
    simpa [hlen] using hlt
  rw [Nat.testBit_eq_decide_div_mod_eq, decide_eq_false_iff_not] at hbit
  unfold readDigits signedSeconds
  rw [if_neg (by simp [hlen, List.all_eq_true.2 hhex])]
  dsimp only
  rw [if_neg (by rw [Nat.pow_eq]; omega)]
  -- bit 62 of a count below `2 ^ 63` is the comparison with `2 ^ 62`
  have h62 : (hexValue (cs.take 16)).testBit 62 = decide (Nat.pow 2 62 ≤ hexValue (cs.take 16)) := by
    rw [Nat.testBit_eq_decide_div_mod_eq, Nat.pow_eq]
    simp only [decide_eq_decide]
    omega
  rw [h62]
  simp only [decide_eq_true_eq, ge_iff_le]
  rfl

/-- A label with bit 63 clear reads as the date its nanoseconds from 1970 make, rounded to the
nearest microsecond with ties to even. -/
theorem read_of_isLabel {s : String} {cs : List Char} (h : IsLabel s cs)
    (hbit : (hexValue (cs.take 16)).testBit 63 = false) :
    ∃ m, IsRoundHalfEven (labelNanos cs) 1000 m ∧ read s = DateTime.afterEpoch m := by
  obtain ⟨-, hlen, hhex⟩ := id h
  have hN : hexValue (cs.drop 16) < 2 ^ 32 := by
    have hlt : hexValue (cs.drop 16) < 16 ^ (cs.drop 16).length :=
      hexValue_lt fun c hc => hhex c (List.mem_of_mem_drop hc)
    simpa [hlen] using hlt
  obtain ⟨m, hm, hof⟩ := DateTime.ofTai64_nanos (signedSeconds (hexValue (cs.take 16))) hN
  exact ⟨m, hm, by rw [readDigits_of_isLabel h, readDigits_of_label hlen hhex hbit, hof]⟩

end Tai64

/-- TAI64N labels are read as the ElasticSearch variant of the format. A text is read exactly
when it is a label (an optional `@` and 24 hexadecimal digits, in either case) whose seconds
field has its reserved bit 63 clear, and whose instant falls in the years 1 to 9999; that
instant is 1970 plus `signedSeconds S * 10 ^ 9 + N` nanoseconds, the seconds field `S` read as a
63-bit two's-complement count and `N` the nanoseconds field, rounded to the nearest microsecond
with ties to even, and the date is in UTC. The result depends on the fields only through that
sum, so nanoseconds of a second or more carry into the seconds. -/
theorem tai64n_read_spec :
    (∀ s : String, (∃ t, Tai64.read s = .ok t) ↔
      ∃ cs, Tai64.IsLabel s cs ∧ (Tai64.hexValue (cs.take 16)).testBit 63 = false ∧
        ∃ m, IsRoundHalfEven (Tai64.labelNanos cs) 1000 m ∧ DateTime.InRange (epochMicros + m)) ∧
    (∀ (s : String) (cs : List Char) (t : DateTime), Tai64.IsLabel s cs →
      Tai64.read s = .ok t →
        t.zone = some Zone.utc ∧
          ∃ m, IsRoundHalfEven (Tai64.labelNanos cs) 1000 m ∧ t.utcMicros = epochMicros + m) ∧
    (∀ (s s' : String) (cs cs' : List Char), Tai64.IsLabel s cs → Tai64.IsLabel s' cs' →
      (Tai64.hexValue (cs.take 16)).testBit 63 = false →
      (Tai64.hexValue (cs'.take 16)).testBit 63 = false →
      Tai64.labelNanos cs = Tai64.labelNanos cs' → Tai64.read s = Tai64.read s') := by
  -- a label with bit 63 set is refused
  have hreserved : ∀ {s cs}, Tai64.IsLabel s cs →
      (Tai64.hexValue (cs.take 16)).testBit 63 = true → Tai64.read s = .error .tai64Label := by
    intro s cs h hbit
    rw [Tai64.readDigits_of_isLabel h, Tai64.readDigits_of_reserved h.2.1 h.2.2 hbit]
  refine ⟨fun s => ⟨?_, ?_⟩, fun s cs t h ht => ?_, fun s s' cs cs' h h' hbit hbit' heq => ?_⟩
  · -- what is read is a label with bit 63 clear, and its instant has a date
    rintro ⟨t, ht⟩
    obtain ⟨cs, hs, -, hread⟩ := Tai64.read_eq_readDigits s
    by_cases hlabel : cs.length = 24 ∧ ∀ c ∈ cs, Tai64.isHex c = true
    · have h : Tai64.IsLabel s cs := ⟨hs, hlabel⟩
      cases hbit : (Tai64.hexValue (cs.take 16)).testBit 63
      · obtain ⟨m, hm, hm'⟩ := Tai64.read_of_isLabel h hbit
        exact ⟨cs, h, hbit, m, hm, DateTime.afterEpoch_ok_iff.1 ⟨t, hm' ▸ ht⟩⟩
      · rw [hreserved h hbit] at ht
        cases ht
    · rw [hread, Tai64.readDigits_of_malformed hlabel] at ht
      cases ht
  · rintro ⟨cs, h, hbit, m, hm, hrange⟩
    obtain ⟨m', hm', hread⟩ := Tai64.read_of_isLabel h hbit
    rw [hread, ← IsRoundHalfEven.unique (by norm_num) hm hm']
    exact DateTime.afterEpoch_ok_iff.2 hrange
  · cases hbit : (Tai64.hexValue (cs.take 16)).testBit 63
    · obtain ⟨m, hm, hread⟩ := Tai64.read_of_isLabel h hbit
      rw [hread] at ht
      obtain ⟨hzone, hutc⟩ := DateTime.afterEpoch_ok ht
      exact ⟨hzone, m, hm, hutc⟩
    · rw [hreserved h hbit] at ht
      cases ht
  · -- equal sums round to the same microsecond
    obtain ⟨m, hm, hread⟩ := Tai64.read_of_isLabel h hbit
    obtain ⟨m', hm', hread'⟩ := Tai64.read_of_isLabel h' hbit'
    rw [hread, hread', IsRoundHalfEven.unique (by norm_num) hm (heq ▸ hm')]

/-- One second and one microsecond after 1970, as a label with an `@` whose nanoseconds field
holds the microsecond, and as a label whose nanoseconds field holds it all: both are read, as the
same UTC date of that instant. -/
theorem tai64n_read_carries_nanoseconds :
    let cs := "0000000000000001000003e8".toList
    let cs' := "00000000000000003b9acde8".toList
    Tai64.IsLabel "@0000000000000001000003e8" cs ∧ Tai64.IsLabel "00000000000000003b9acde8" cs' ∧
      (Tai64.hexValue (cs.take 16)).testBit 63 = false ∧
      (Tai64.hexValue (cs'.take 16)).testBit 63 = false ∧
      Tai64.labelNanos cs = Tai64.labelNanos cs' ∧
      IsRoundHalfEven (Tai64.labelNanos cs) 1000 1000001 ∧
      DateTime.InRange (epochMicros + 1000001) ∧
      (∃ t, Tai64.read "@0000000000000001000003e8" = .ok t ∧ t.zone = some Zone.utc ∧
        t.utcMicros = epochMicros + 1000001) ∧
      Tai64.read "@0000000000000001000003e8" = Tai64.read "00000000000000003b9acde8" := by
  intro cs cs'
  have hl : Tai64.IsLabel "@0000000000000001000003e8" cs :=
    ⟨.inr (by decide), by decide, List.all_eq_true.mp (by decide)⟩
  have hl' : Tai64.IsLabel "00000000000000003b9acde8" cs' :=
    ⟨.inl rfl, by decide, List.all_eq_true.mp (by decide)⟩
  have hbit : (Tai64.hexValue (cs.take 16)).testBit 63 = false := by decide
  have hbit' : (Tai64.hexValue (cs'.take 16)).testBit 63 = false := by decide
  have hnanos : Tai64.labelNanos cs = 1000001000 := by decide
  have hnanos' : Tai64.labelNanos cs' = 1000001000 := by decide
  have hround : IsRoundHalfEven (Tai64.labelNanos cs) 1000 1000001 := by
    rw [hnanos]
    exact .inl (by decide)
  have hin : DateTime.InRange (epochMicros + 1000001) := by
    rw [DateTime.InRange, epochMicros_eq]
    unfold maxOrdinal dayMicros secondMicros
    omega
  obtain ⟨hreads, hutc, hsame⟩ := tai64n_read_spec
  obtain ⟨t, ht⟩ := (hreads _).2 ⟨cs, hl, hbit, 1000001, hround, hin⟩
  obtain ⟨hz, m, hm, hu⟩ := hutc _ cs t hl ht
  have hm' : m = 1000001 := IsRoundHalfEven.unique (by norm_num) hm hround
  exact ⟨hl, hl', hbit, hbit', hnanos.trans hnanos'.symm, hround, hin, ⟨t, ht, hz, hm' ▸ hu⟩,
    hsame _ _ cs cs' hl hl' hbit hbit' (hnanos.trans hnanos'.symm)⟩

end Ingest.Time
