import Ingest.Time.Formatter
import Ingest.Proofs.CalendarCount
import Ingest.Proofs.DoubleRounding
import Mathlib.Data.List.Induction

/-!
# TAI64N labels

A TAI64N label is `@`, 16 hexadecimal digits of seconds from 1970 and 8 of nanoseconds.
`Tai64.write` takes the seconds from the date's double timestamp, cut toward zero, with a
negative count offset by `2 ^ 63`, and the nanoseconds from the date's own microsecond field;
`Tai64.read` adds the nanoseconds, as microseconds, forward from the seconds.

The two agree exactly when cutting toward zero is the floor: for an instant from 1970 on, or
on a whole second. Before 1970 a fraction of a second is added forward from the second after
the instant, so the label reads back one second late (`tai64n_label_round_trip`). Within
`2 ^ 34` seconds of 1970 the double timestamp is close enough to the instant that its whole
seconds are the instant's own (`Binary64.trunc?_ofRat`).

* `Tai64.hexValue_hexDigits`, `Tai64.hexDigits_hexValue`: the fixed-width hexadecimal fields;
* `Tai64.read_eq`, `Tai64.write_eq`, `DateTime.ofTai64_micros`: the reader and the writer,
  layer by layer;
* `tai64n_label_of_half_second_before_1970`: the date half a second before 1970 and its
  label.
-/

namespace Ingest.Time

namespace Tai64

open Text

/-! ## Hexadecimal fields -/

/-- The hexadecimal digits, in both cases. -/
def hexChars : List Char := "0123456789abcdefABCDEF".toList

theorem mem_hexChars {c : Char} (h : isHex c = true) : c ∈ hexChars := by
  -- a hexadecimal digit is ASCII, and among the ASCII characters the digits are these
  have hsmall : c.toNat < 128 := by
    simp only [isHex, Bool.or_eq_true, Bool.and_eq_true, decide_eq_true_eq, Char.le_def,
      UInt32.le_iff_toNat_le, Char.toNat_val, Char.reduceToNat] at h
    omega
  have key : ∀ k < 128, isHex (Char.ofNat k) = true → Char.ofNat k ∈ hexChars := by decide
  simpa using key c.toNat hsmall (by simpa using h)

/-- What one hexadecimal digit is worth, and the lowercase digit that writes that value. -/
theorem hexValue_single {c : Char} (h : isHex c = true) :
    hexValue [c] < 16 ∧ Nat.digitChar (hexValue [c]) = c.toLower := by
  have key : hexChars.all
      (fun d => decide (hexValue [d] < 16) && Nat.digitChar (hexValue [d]) == d.toLower) := by
    decide
  have hc := List.all_eq_true.1 key c (mem_hexChars h)
  simpa only [Bool.and_eq_true, decide_eq_true_eq, beq_iff_eq] using hc

/-- Each value below 16 is written by a hexadecimal digit that reads back as that value. -/
theorem hexValue_digitChar :
    ∀ d < 16, hexValue [Nat.digitChar d] = d ∧ isHex (Nat.digitChar d) = true := by
  decide

theorem hexValue_concat (cs : List Char) (c : Char) :
    hexValue (cs ++ [c]) = hexValue cs * 16 + hexValue [c] := by
  simp only [hexValue, List.foldl_append, List.foldl_cons, List.foldl_nil, Nat.zero_mul,
    Nat.zero_add]

theorem hexValue_zeros_append (k : Nat) (cs : List Char) :
    hexValue (List.replicate k '0' ++ cs) = hexValue cs := by
  induction cs using List.reverseRecOn with
  | nil =>
    induction k with
    | zero => rfl
    | succ k ih =>
      rw [List.append_nil] at ih ⊢
      rw [List.replicate_succ', hexValue_concat, ih]
      rfl
  | append_singleton cs c ih =>
    rw [← List.append_assoc, hexValue_concat, ih, hexValue_concat]

theorem hexValue_toDigits (n : Nat) : hexValue (Nat.toDigits 16 n) = n := by
  induction n using Nat.strong_induction_on with
  | _ n ih =>
    rw [Nat.toDigits_eq_if (by decide)]
    split
    · exact (hexValue_digitChar n ‹_›).1
    · rw [hexValue_concat, ih (n / 16) (by omega),
        (hexValue_digitChar (n % 16) (Nat.mod_lt _ (by decide))).1]
      omega

/-- A padded field reads back as the number it was written from. -/
theorem hexValue_hexDigits (n w : Nat) : hexValue (hexDigits n w) = n := by
  unfold hexDigits
  dsimp only
  rw [hexValue_zeros_append, hexValue_toDigits]

theorem isHex_of_mem_toDigits {c : Char} {n : Nat} (h : c ∈ Nat.toDigits 16 n) :
    isHex c = true := by
  induction n using Nat.strong_induction_on with
  | _ n ih =>
    rw [Nat.toDigits_eq_if (by decide)] at h
    split at h
    · rw [List.mem_singleton.1 h]
      exact (hexValue_digitChar n ‹_›).2
    · rcases List.mem_append.1 h with h | h
      · exact ih (n / 16) (by omega) h
      · rw [List.mem_singleton.1 h]
        exact (hexValue_digitChar (n % 16) (Nat.mod_lt _ (by decide))).2

theorem isHex_of_mem_hexDigits {c : Char} {n w : Nat} (h : c ∈ hexDigits n w) :
    isHex c = true := by
  unfold hexDigits at h
  dsimp only at h
  rcases List.mem_append.1 h with h | h
  · rw [List.eq_of_mem_replicate h]
    rfl
  · exact isHex_of_mem_toDigits h

theorem length_hexDigits {n w : Nat} (hw : 0 < w) (h : n < 16 ^ w) :
    (hexDigits n w).length = w := by
  have := (Nat.length_toDigits_le_iff (by decide) hw).2 h
  unfold hexDigits
  dsimp only
  rw [List.length_append, List.length_replicate]
  omega

/-- A field one digit wider is the field of the number's sixteenths, then its last digit. -/
theorem hexDigits_succ {w : Nat} (hw : 0 < w) (n : Nat) :
    hexDigits n (w + 1) = hexDigits (n / 16) w ++ [Nat.digitChar (n % 16)] := by
  unfold hexDigits
  dsimp only
  rcases Nat.lt_or_ge n 16 with hn | hn
  · -- one digit: the padding grows by the zero that the sixteenths are written as
    rw [Nat.toDigits_of_lt_base hn, Nat.div_eq_of_lt hn, Nat.mod_eq_of_lt hn, Nat.toDigits_zero]
    obtain ⟨v, rfl⟩ : ∃ v, w = v + 1 := ⟨w - 1, by omega⟩
    simp only [List.length_singleton, Nat.add_sub_cancel, List.replicate_succ', List.append_assoc,
      List.singleton_append]
  · rw [Nat.toDigits_of_base_le (by decide) hn, List.length_append, List.length_singleton,
      Nat.add_sub_add_right, List.append_assoc]

/-- Hexadecimal digits, in either case, are the field of their value in lowercase. -/
theorem hexDigits_hexValue {cs : List Char} (hne : cs ≠ []) (hhex : ∀ c ∈ cs, isHex c = true) :
    hexDigits (hexValue cs) cs.length = cs.map Char.toLower := by
  induction cs using List.reverseRecOn with
  | nil => exact absurd rfl hne
  | append_singleton cs c ih =>
    obtain ⟨hlt, hdigit⟩ := hexValue_single (hhex c (by simp))
    rw [hexValue_concat, List.length_append, List.length_singleton, List.map_append,
      List.map_singleton]
    by_cases hcs : cs = []
    · subst hcs
      rw [List.length_nil, Nat.zero_add, hexValue, List.foldl_nil, Nat.zero_mul, Nat.zero_add]
      unfold hexDigits
      rw [Nat.toDigits_of_lt_base hlt, hdigit]
      rfl
    · rw [hexDigits_succ (List.length_pos_iff.2 hcs),
        show (hexValue cs * 16 + hexValue [c]) / 16 = hexValue cs by omega,
        show (hexValue cs * 16 + hexValue [c]) % 16 = hexValue [c] by omega,
        ih hcs (fun x hx => hhex x (by simp [hx])), hdigit]

/-! ## Labels -/

/-- The seconds field of a label for `σ` seconds from 1970: a negative count is offset by
`2 ^ 63`. -/
def secondsField (σ : Int) : Nat := (if σ < 0 then σ + Int.pow 2 63 else σ).toNat

/-- The label of `σ` seconds from 1970 and `nanos` nanoseconds, in lowercase digits. -/
def label (σ : Int) (nanos : Nat) : String :=
  "@" ++ String.ofList (hexDigits (secondsField σ) 16) ++ String.ofList (hexDigits nanos 8)

theorem secondsField_lt {σ : Int} (h : σ.natAbs < 2 ^ 62) : secondsField σ < 2 ^ 63 := by
  have h63 : Int.pow 2 63 = 9223372036854775808 := rfl
  unfold secondsField
  rw [h63]
  split <;> omega

/-- Reading `σ` seconds from its field, within `2 ^ 62` of 1970, gives `σ` back. -/
theorem read_secondsField {σ : Int} (h : σ.natAbs < 2 ^ 62) :
    (if secondsField σ ≥ Nat.pow 2 62 then (secondsField σ : Int) - Int.pow 2 63
      else secondsField σ) = σ := by
  have h62 : Nat.pow 2 62 = 4611686018427387904 := rfl
  have h63 : Int.pow 2 63 = 9223372036854775808 := rfl
  unfold secondsField
  rw [h62, h63]
  split <;> split <;> omega

theorem secondsField_inj {a b : Int} (ha : a.natAbs < 2 ^ 62) (hb : b.natAbs < 2 ^ 62)
    (h : secondsField a = secondsField b) : a = b := by
  rw [← read_secondsField ha, ← read_secondsField hb, h]

/-- A label of 24 hexadecimal digits, with or without its `@`, whose first 16 digits hold the
seconds field of `σ`, is read as `σ` seconds and its last 8 digits as nanoseconds. -/
theorem read_eq {s : String} {cs : List Char} (hs : s.toList = cs ∨ s.toList = '@' :: cs)
    (hlen : cs.length = 24) (hhex : ∀ c ∈ cs, isHex c = true) {σ : Int}
    (hσ : hexValue (cs.take 16) = secondsField σ) (hσ₂ : σ.natAbs < 2 ^ 62) :
    read s = DateTime.ofTai64 σ (Binary64.ofRat false (hexValue (cs.drop 16)) 1000) := by
  have hat : '@' ∉ cs := fun h => absurd (hhex '@' h) (by decide)
  have hall : cs.all isHex = true := List.all_eq_true.2 hhex
  unfold read
  -- the characters after an optional `@` are the digits, since no digit is an `@`
  split
  case' h_1 _ rest hrest =>
    obtain rfl : rest = cs := by
      rcases hs with hs | hs
      · rw [hs] at hrest
        exact absurd (hrest ▸ List.mem_cons_self) hat
      · rw [hs] at hrest
        exact (List.cons.inj hrest).2.symm
  case' h_2 _ hnot => rw [hs.resolve_right (hnot cs)]
  all_goals
    dsimp only
    have hfit : ¬ secondsField σ ≥ Nat.pow 2 63 := Nat.not_le.2 (secondsField_lt hσ₂)
    rw [if_neg (by simp [hlen, hall]), hσ, if_neg hfit, read_secondsField hσ₂]

/-- Within `2 ^ 34` seconds of 1970, the label of an aware date holds the whole seconds of its
instant, cut toward zero, and the date's own microsecond field as nanoseconds. -/
theorem write_eq {t : DateTime} {z : Zone} (ht : t.zone = some z)
    (hus : (t.utcMicros - epochMicros).natAbs < 2 ^ 34 * 1000000) :
    write t = .ok (label ((t.utcMicros - epochMicros).tdiv 1000000) (t.micro * 1000)) := by
  have hts : t.timestamp = .ok (Binary64.ofRat (decide (t.utcMicros - epochMicros < 0))
      (t.utcMicros - epochMicros).natAbs secondMicros) := by
    unfold DateTime.timestamp
    rw [ht]
  -- the double's whole seconds are those of the exact instant
  have htrunc : (Binary64.ofRat (decide (t.utcMicros - epochMicros < 0))
      (t.utcMicros - epochMicros).natAbs secondMicros).trunc? =
        some ((t.utcMicros - epochMicros).tdiv 1000000) := by
    rw [Binary64.trunc?_ofRat _ (by decide) (by decide) (by unfold secondMicros; omega)]
    congr 1
    unfold secondMicros
    -- cutting toward zero divides the magnitude and keeps the sign
    generalize t.utcMicros - epochMicros = us
    rcases us with m | m <;> simp [Int.tdiv]
  unfold write
  rw [hts]
  simp only [bind, Except.bind, htrunc, Option.getD_some, pure, Except.pure]
  rfl

/-- A label written for seconds within `2 ^ 62` of 1970 reads back as those seconds and its
nanoseconds. -/
theorem read_label {σ : Int} {nanos : Nat} (hσ : σ.natAbs < 2 ^ 62) (hn : nanos < 16 ^ 8) :
    read (label σ nanos) = DateTime.ofTai64 σ (Binary64.ofRat false nanos 1000) := by
  have h₁ : (hexDigits (secondsField σ) 16).length = 16 :=
    length_hexDigits (by decide) (by have := secondsField_lt hσ; omega)
  have h₂ : (hexDigits nanos 8).length = 8 := length_hexDigits (by decide) hn
  have hs : (label σ nanos).toList =
      '@' :: (hexDigits (secondsField σ) 16 ++ hexDigits nanos 8) := by
    simp only [label, String.toList_append, String.toList_ofList]
    rfl
  rw [read_eq (.inr hs) (by simp [h₁, h₂])
    (fun c hc => (List.mem_append.1 hc).elim isHex_of_mem_hexDigits isHex_of_mem_hexDigits)
    (by rw [List.take_left' h₁, hexValue_hexDigits]) hσ,
    List.drop_left' h₁, hexValue_hexDigits]

/-- Labels with the same nanoseconds are equal exactly when their seconds are. -/
theorem label_inj {a b : Int} (ha : a.natAbs < 2 ^ 62) (hb : b.natAbs < 2 ^ 62) (nanos : Nat) :
    label a nanos = label b nanos ↔ a = b := by
  constructor
  · intro h
    simp only [label, String.append_left_inj, String.append_right_inj, String.ofList_inj] at h
    apply secondsField_inj ha hb
    rw [← hexValue_hexDigits (secondsField a) 16, h, hexValue_hexDigits]
  · rintro rfl
    rfl

end Tai64

theorem epochMicros_eq : epochMicros = 62135596800000000 := by decide

namespace DateTime

/-- Seconds within `2 ^ 34` of 1970 and a whole number of microseconds, given as nanoseconds,
make the instant that many microseconds from 1970. -/
theorem ofTai64_micros {σ : Int} {μ : Nat} (hσ : σ.natAbs < 2 ^ 34) (hμ : μ < 1000000) :
    ofTai64 σ (Binary64.ofRat false (μ * 1000) 1000) =
      ofLocalMicros (epochMicros + (σ * 1000000 + μ)) (some Zone.utc) := by
  -- the microseconds are held exactly: a whole part and a zero fraction
  have hsplit := Binary64.splitFraction_ofRat_mul_of_lt false (c := μ) (d := 1000) (by decide)
    (by omega)
  obtain ⟨hs, -, den, hden, hmag⟩ := Binary64.ofRat_zero false 1
  have hwhole : (Binary64.ofRat false μ 1).trunc? = some (μ : Int) := by
    rw [Binary64.trunc?_ofRat false (by decide) (by decide) (by omega)]
    simp
  have hratio : (Binary64.ofRat false 0 1).ratio = (0, den) := by
    simp only [Binary64.ratio, hmag, hs]
    rfl
  unfold ofTai64
  rw [hsplit]
  dsimp only
  rw [hwhole, hratio]
  dsimp only
  -- no fraction is left to round, and the day count is far inside its limits
  have hround₁ : ¬ (2 * (0 : Int) > den) := by omega
  have hround₂ : 2 * (0 : Int) < den := by omega
  have h31 : Int.pow 2 31 = 2147483648 := rfl
  simp only [hround₁, hround₂, if_false, if_true, Option.getD_some, Int.add_zero, h31]
  unfold dayMicros secondMicros
  rw [if_neg (by simp only [Bool.or_eq_true, decide_eq_true_eq, not_or]; omega),
    if_neg (by omega)]
  rfl

/-- Seconds within `2 ^ 34` of 1970 and a whole number of microseconds, given as nanoseconds,
make a UTC date and time of that instant, with those microseconds in its field. -/
theorem ofTai64_instant {σ : Int} {μ : Nat} (hσ : σ.natAbs < 2 ^ 34) (hμ : μ < 1000000) :
    ∃ t, ofTai64 σ (Binary64.ofRat false (μ * 1000) 1000) = .ok t ∧
      t.utcMicros = epochMicros + (σ * 1000000 + μ) ∧ t.micro = μ ∧ t.zone = some Zone.utc := by
  obtain ⟨t, ht, hloc, hzone, hmicro⟩ :=
    ofLocalMicros_localMicros (x := epochMicros + (σ * 1000000 + μ))
      (by rw [epochMicros_eq]; omega)
      (by rw [epochMicros_eq]; unfold maxOrdinal dayMicros secondMicros; omega) (some Zone.utc)
  refine ⟨t, (ofTai64_micros hσ hμ).trans ht, ?_, ?_, hzone⟩
  · unfold utcMicros
    rw [hzone, hloc]
    simp only [Option.map_some, Option.getD_some, Zone.utc, Int.sub_zero]
  · rw [epochMicros_eq] at hmicro
    unfold secondMicros at hmicro
    omega

/-- In a zone of whole seconds, the microseconds of an instant past its second are the date's
own microsecond field. -/
theorem utcMicros_emod {t : DateTime} {z : Zone} (ht : t.zone = some z)
    (hoff : 1000000 ∣ z.offset) (hμ : t.micro < 1000000) :
    (t.utcMicros - epochMicros) % 1000000 = t.micro := by
  unfold utcMicros localMicros
  rw [ht, epochMicros_eq]
  simp only [Option.map_some, Option.getD_some]
  unfold secondMicros
  omega

end DateTime

/-- A count of microseconds cut toward zero to whole seconds: the floor, and one more for a
negative count with a fraction of a second. -/
theorem tdiv_million (us : Int) :
    us.tdiv 1000000 = us / 1000000 + if 0 ≤ us ∨ 1000000 ∣ us then 0 else 1 := by
  rw [Int.tdiv_eq_ediv]
  rfl

/-- The TAI64N formatter within `2 ^ 34` seconds of 1970, both ways round. An aware date written
as a label reads back as the instant of its timestamp's whole seconds, cut toward zero, plus
its own microsecond field; in a zone of whole seconds that is the date's own instant exactly
when the instant is from 1970 on or on a whole second, and one second later otherwise. A label
of whole microseconds, in either case and with or without its `@`, reads as a date that is
written back as the label in lowercase with its `@` exactly when its seconds are from 1970 on
or it has no fraction of a second. -/
theorem tai64n_label_round_trip (t : DateTime) (z : Zone) (s : String) (cs : List Char) (σ : Int)
    (μ : Nat) :
    (t.zone = some z → t.micro < 1000000 →
      (t.utcMicros - epochMicros).natAbs < 2 ^ 34 * 1000000 →
      ∃ label t', Formatter.format t .tai64n = .ok (.str label) ∧ Tai64.read label = .ok t' ∧
        t'.utcMicros =
          epochMicros + (t.utcMicros - epochMicros).tdiv 1000000 * 1000000 + t.micro ∧
        (1000000 ∣ z.offset → (t'.utcMicros = t.utcMicros ↔
          (0 ≤ t.utcMicros - epochMicros ∨ 1000000 ∣ t.utcMicros - epochMicros)))) ∧
    ((s.toList = cs ∨ s.toList = '@' :: cs) → cs.length = 24 →
      (∀ c ∈ cs, Tai64.isHex c = true) →
      Tai64.hexValue (cs.take 16) = Tai64.secondsField σ →
      Tai64.hexValue (cs.drop 16) = μ * 1000 → σ.natAbs < 2 ^ 34 → μ < 1000000 →
      ∃ d, Tai64.read s = .ok d ∧
        (Formatter.format d .tai64n = .ok (.str ("@" ++ String.ofList (cs.map Char.toLower))) ↔
          (0 ≤ σ ∨ μ = 0))) := by
  refine ⟨fun ht hμ hus => ?_, fun hs hlen hhex hσ hν hσ₂ hμ => ?_⟩
  · -- a date to a label and back
    have hσ : ((t.utcMicros - epochMicros).tdiv 1000000).natAbs < 2 ^ 34 := by
      rw [tdiv_million]
      split <;> omega
    obtain ⟨t', ht', hutc, -, -⟩ := DateTime.ofTai64_instant hσ hμ
    refine ⟨Tai64.label ((t.utcMicros - epochMicros).tdiv 1000000) (t.micro * 1000), t', ?_, ?_,
      ?_, ?_⟩
    · simp only [Formatter.format, Tai64.write_eq ht hus]
      rfl
    · rw [Tai64.read_label (by omega) (by omega), ht']
    · rw [hutc]
      omega
    · intro hoff
      have hmod := DateTime.utcMicros_emod ht hoff hμ
      rw [hutc, tdiv_million]
      split <;> omega
  · -- a label to a date and back
    have hread : Tai64.read s = DateTime.ofTai64 σ (Binary64.ofRat false (μ * 1000) 1000) := by
      rw [Tai64.read_eq hs hlen hhex hσ (by omega), hν]
    obtain ⟨d, hd, hutc, hmicro, hzone⟩ := DateTime.ofTai64_instant hσ₂ hμ
    refine ⟨d, hread.trans hd, ?_⟩
    have hus : (d.utcMicros - epochMicros).natAbs < 2 ^ 34 * 1000000 := by
      rw [hutc]
      omega
    -- the digits in lowercase are the label of the seconds and nanoseconds they hold
    have hlower : "@" ++ String.ofList (cs.map Char.toLower) = Tai64.label σ (μ * 1000) := by
      have h16 : (cs.take 16).length = 16 := by simp [hlen]
      have h8 : (cs.drop 16).length = 8 := by simp [hlen]
      have hne : ∀ {n : Nat} {l : List Char}, l.length = n + 1 → l ≠ [] := by
        rintro n l hl rfl
        simp at hl
      rw [← List.take_append_drop 16 cs, List.map_append,
        ← Tai64.hexDigits_hexValue (hne h16) (fun c hc => hhex c (List.mem_of_mem_take hc)),
        ← Tai64.hexDigits_hexValue (hne h8) (fun c hc => hhex c (List.mem_of_mem_drop hc)),
        h16, h8, hσ, hν, String.ofList_append, ← String.append_assoc]
      rfl
    have hformat : Formatter.format d .tai64n =
        .ok (.str (Tai64.label ((d.utcMicros - epochMicros).tdiv 1000000) (d.micro * 1000))) := by
      simp only [Formatter.format, Tai64.write_eq hzone hus]
      rfl
    -- the label written back differs only in its seconds, cut toward zero
    have hσ' : ((d.utcMicros - epochMicros).tdiv 1000000).natAbs < 2 ^ 62 := by
      rw [tdiv_million]
      split <;> omega
    rw [hformat, hlower, hmicro]
    simp only [Except.ok.injEq, Scalar.str.injEq]
    rw [Tai64.label_inj hσ' (by omega), hutc, tdiv_million]
    split <;> omega

/-- Half a second before 1970, UTC. -/
def halfSecondBefore1970 : DateTime := ⟨1969, 12, 31, 23, 59, 59, 500000, some Zone.utc⟩

/-- Both directions at half a second before 1970: the date and its label `@7fff...f1dcd6500`. -/
theorem tai64n_label_round_trip_before_1970 :
    (halfSecondBefore1970.micro < 1000000 ∧
      (halfSecondBefore1970.utcMicros - epochMicros).natAbs < 2 ^ 34 * 1000000 ∧
      ∃ label t', Formatter.format halfSecondBefore1970 .tai64n = .ok (.str label) ∧
        Tai64.read label = .ok t' ∧
        t'.utcMicros = epochMicros + (halfSecondBefore1970.utcMicros - epochMicros).tdiv 1000000 *
          1000000 + halfSecondBefore1970.micro ∧
        (1000000 ∣ Zone.utc.offset → (t'.utcMicros = halfSecondBefore1970.utcMicros ↔
          (0 ≤ halfSecondBefore1970.utcMicros - epochMicros ∨
            1000000 ∣ halfSecondBefore1970.utcMicros - epochMicros)))) ∧
    ("@7fffffffffffffff1dcd6500".toList = '@' :: "7fffffffffffffff1dcd6500".toList ∧
      Tai64.hexValue ("7fffffffffffffff1dcd6500".toList.take 16) = Tai64.secondsField (-1) ∧
      Tai64.hexValue ("7fffffffffffffff1dcd6500".toList.drop 16) = 500000 * 1000 ∧
      ∃ d, Tai64.read "@7fffffffffffffff1dcd6500" = .ok d ∧
        (Formatter.format d .tai64n =
            .ok (.str ("@" ++ String.ofList ("7fffffffffffffff1dcd6500".toList.map Char.toLower))) ↔
          (0 ≤ (-1 : Int) ∨ 500000 = 0))) :=
  ⟨⟨by decide, by decide,
      (tai64n_label_round_trip halfSecondBefore1970 Zone.utc "" [] 0 0).1 rfl (by decide)
        (by decide)⟩,
    ⟨by decide, by decide, by decide,
      (tai64n_label_round_trip halfSecondBefore1970 Zone.utc "@7fffffffffffffff1dcd6500"
        "7fffffffffffffff1dcd6500".toList (-1) 500000).2 (.inr (by decide +kernel)) (by decide)
        (List.all_eq_true.1 (by decide)) (by decide) (by decide) (by decide) (by decide)⟩⟩

/-- Half a second before 1970 is written with the seconds of 1970 itself, and the label that
reads as that instant is another. -/
theorem tai64n_label_of_half_second_before_1970 :
    Formatter.format halfSecondBefore1970 .tai64n = .ok (.str "@00000000000000001dcd6500") ∧
      Tai64.read "@7fffffffffffffff1dcd6500" = .ok halfSecondBefore1970 := by
  constructor
  · -- the timestamp is cut toward zero, to the second of 1970
    have hcut : (halfSecondBefore1970.utcMicros - epochMicros).tdiv 1000000 = 0 := by decide
    have hlabel : Tai64.label 0 (halfSecondBefore1970.micro * 1000) =
        "@00000000000000001dcd6500" := by decide
    simp only [Formatter.format, Tai64.write_eq (t := halfSecondBefore1970) rfl (by decide), hcut,
      hlabel]
    rfl
  · -- the seconds field `2 ^ 63 - 1` is the second before 1970
    have hσ : Tai64.hexValue ("7fffffffffffffff1dcd6500".toList.take 16) =
        Tai64.secondsField (-1) := by decide
    have hν : Tai64.hexValue ("7fffffffffffffff1dcd6500".toList.drop 16) = 500000 * 1000 := by
      decide
    rw [Tai64.read_eq (.inr (by decide +kernel)) (by decide) (List.all_eq_true.1 (by decide)) hσ
      (by decide), hν,
      DateTime.ofTai64_micros (by decide) (by decide)]
    rfl

end Ingest.Time
