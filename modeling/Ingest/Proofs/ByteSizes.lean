import Mathlib.Data.List.TakeWhile
import Ingest.Pipeline.Apply

/-!
# Byte sizes read back

`byteCount` reads a size such as `12kb` or `1 MB`: it case-folds the text, takes the first unit
of `byteUnits` that ends it, cuts the unit and the blanks before it, and reads the rest as an
integer (as a double when that fails) times the unit's factor.

The table tries `k` before `kb` and puts `b`, which ends every two-letter unit, last. That order
is what makes the written form of every size read back: before its unit a size text has a digit
or a blank, never a letter, so no earlier unit of the table ends the text unless it is the unit
itself (`find_unit`). Case folding leaves the digits and blanks alone and puts the ASCII letters
of the unit in lower case (`casefold_size_text`), and the rest, its blanks cut, is the number
(`trimEnd_digits_blanks`).

The number is read as an integer only up to `maxIntDigits` digits: beyond that reading an
integer fails, the double the digits stand for overflows, and the size fails to convert
(`byteCount_overflows_past_digit_limit`). The main statement is `byte_sizes_read_back`.
-/

namespace Ingest

/-! ## Characters of a size text -/

namespace Text

/-- Case folding puts an ASCII character in lower case. -/
theorem foldChar_ascii {c : Char} (h : c.toNat < 128) : foldChar c = [c.toLower] := by
  have hall : ∀ n < 128, foldChar (Char.ofNat n) = [(Char.ofNat n).toLower] := by
    decide +kernel
  simpa [Char.ofNat_toNat] using hall c.toNat h

/-- Case folding leaves the blanks as they are. -/
theorem foldChar_of_isBlank {c : Char} (h : isBlank c = true) : foldChar c = [c] := by
  -- the blanks are finitely many code points, each checked against the tables
  have hcode : c.toNat ∈ [0x09, 0x0A, 0x0B, 0x0C, 0x0D, 0x1C, 0x1D, 0x1E, 0x1F, 0x20, 0x85,
      0xA0, 0x1680, 0x2000, 0x2001, 0x2002, 0x2003, 0x2004, 0x2005, 0x2006, 0x2007, 0x2008,
      0x2009, 0x200A, 0x2028, 0x2029, 0x202F, 0x205F, 0x3000] := by
    simp only [isBlank, Bool.or_eq_true, Bool.and_eq_true, decide_eq_true_eq, beq_iff_eq] at h
    simp only [List.mem_cons, List.not_mem_nil, or_false]
    omega
  have hall : ∀ n ∈ [0x09, 0x0A, 0x0B, 0x0C, 0x0D, 0x1C, 0x1D, 0x1E, 0x1F, 0x20, 0x85, 0xA0,
      0x1680, 0x2000, 0x2001, 0x2002, 0x2003, 0x2004, 0x2005, 0x2006, 0x2007, 0x2008, 0x2009,
      0x200A, 0x2028, 0x2029, 0x202F, 0x205F, 0x3000],
      foldChar (Char.ofNat n) = [Char.ofNat n] := by
    decide +kernel
  simpa [Char.ofNat_toNat] using hall _ hcode

end Text

/-- A character whose ASCII lower case is ASCII is ASCII. -/
theorem Char.toNat_lt_of_toLower {c : Char} (h : c.toLower.toNat < 128) : c.toNat < 128 := by
  unfold Char.toLower at h
  split at h
  · next hc =>
    have : c.val.toNat ≤ 90 := by simpa [UInt32.le_iff_toNat_le] using hc.2
    simp only [Char.toNat]
    omega
  · exact h

theorem isAsciiDigit_eq_isDigit (c : Char) : isAsciiDigit c = c.isDigit := rfl

theorem toNat_of_isDigit {c : Char} (h : c.isDigit = true) : 48 ≤ c.toNat ∧ c.toNat ≤ 57 := by
  simp only [Char.isDigit, Bool.and_eq_true, decide_eq_true_eq] at h
  exact ⟨h.1, h.2⟩

/-- A digit is its own ASCII lower case. -/
theorem toLower_of_isDigit {c : Char} (h : c.isDigit = true) : c.toLower = c := by
  have hc := toNat_of_isDigit h
  unfold Char.toLower
  rw [dif_neg]
  intro hup
  have : 65 ≤ c.val.toNat := by simpa [UInt32.le_iff_toNat_le] using hup.1
  simp only [Char.toNat] at hc
  omega

/-- No digit is blank. -/
theorem isBlank_of_isDigit {c : Char} (h : c.isDigit = true) : Text.isBlank c = false := by
  have hc := toNat_of_isDigit h
  simp only [Text.isBlank, Bool.or_eq_false_iff, Bool.and_eq_false_iff, decide_eq_false_iff_not,
    beq_eq_false_iff_ne]
  omega

/-! ## The units -/

/-- The units are written in ASCII lower case. -/
theorem byteUnits_lower : ∀ p ∈ byteUnits, ∀ c ∈ p.1.toList, c.toNat < 128 ∧ c.toLower = c := by
  -- checked as a test over the table: deciding the statement itself would range over every
  -- character once the instance for all characters is in scope
  have hall : byteUnits.all (fun p => p.1.toList.all fun c =>
      decide (c.toNat < 128) && c.toLower == c) = true := by
    decide
  intro p hp c hc
  have h := List.all_eq_true.1 (List.all_eq_true.1 hall p hp) c hc
  simpa using h

theorem endsWith_iff_suffix {s t : String} : s.endsWith t = true ↔ t.toList <:+ s.toList := by
  show s.toSlice.endsWith t = true ↔ _
  rw [String.Slice.endsWith_string_iff]
  simp

/-- A unit ends a text whose unit is preceded by `c` exactly when it ends `c` and the unit:
no unit is longer than two characters. -/
theorem unit_suffix_iff {pre : List Char} {c : Char} {u v : List Char} (hv : v.length ≤ 2)
    (hu : 1 ≤ u.length) : v <:+ pre ++ c :: u ↔ v <:+ c :: u := by
  constructor
  · intro h
    exact List.suffix_of_suffix_length_le h (List.suffix_append pre (c :: u))
      (by simp; omega)
  · intro h
    exact h.trans (List.suffix_append pre (c :: u))

/-- Before its unit a size text has a digit or a blank: the first unit of the table to end the
text is its own unit. -/
theorem find_unit {pre : List Char} {c : Char} (hc : c.isDigit = true ∨ Text.isBlank c = true)
    {u : String} {f : Nat} (hu : (u, f) ∈ byteUnits) :
    byteUnits.find? (fun x => (String.ofList (pre ++ c :: u.toList)).endsWith x.1) =
      some (u, f) := by
  -- `c` is none of the letters that begin a two-letter unit
  have hletters : c ≠ 'k' ∧ c ≠ 'm' ∧ c ≠ 'g' ∧ c ≠ 't' ∧ c ≠ 'p' := by
    rcases hc with hd | hb
    · have := toNat_of_isDigit hd
      refine ⟨?_, ?_, ?_, ?_, ?_⟩ <;> intro h <;> subst h <;> simp at this
    · refine ⟨?_, ?_, ?_, ?_, ?_⟩ <;> intro h <;> subst h <;> simp [Text.isBlank] at hb
  obtain ⟨hk, hm, hg, ht, hp⟩ := hletters
  have hlen : 1 ≤ u.toList.length := by
    simp only [byteUnits, List.mem_cons, Prod.mk.injEq, List.not_mem_nil, or_false] at hu
    rcases hu with ⟨rfl, -⟩ | ⟨rfl, -⟩ | ⟨rfl, -⟩ | ⟨rfl, -⟩ | ⟨rfl, -⟩ | ⟨rfl, -⟩ | ⟨rfl, -⟩ |
      ⟨rfl, -⟩ | ⟨rfl, -⟩ | ⟨rfl, -⟩ | ⟨rfl, -⟩ <;> decide
  have hends : ∀ v : String, v.toList.length ≤ 2 →
      (String.ofList (pre ++ c :: u.toList)).endsWith v = decide (v.toList <:+ c :: u.toList) := by
    intro v hv
    rw [Bool.eq_iff_iff, endsWith_iff_suffix, String.toList_ofList, unit_suffix_iff hv hlen,
      decide_eq_true_iff]
  generalize String.ofList (pre ++ c :: u.toList) = v at hends ⊢
  simp only [byteUnits, List.mem_cons, Prod.mk.injEq, List.not_mem_nil, or_false] at hu
  rcases hu with ⟨rfl, rfl⟩ | ⟨rfl, rfl⟩ | ⟨rfl, rfl⟩ | ⟨rfl, rfl⟩ | ⟨rfl, rfl⟩ | ⟨rfl, rfl⟩ |
    ⟨rfl, rfl⟩ | ⟨rfl, rfl⟩ | ⟨rfl, rfl⟩ | ⟨rfl, rfl⟩ | ⟨rfl, rfl⟩ <;>
  simp (disch := decide) [byteUnits, List.find?_cons, hends, List.suffix_cons_iff, Ne.symm hk,
    Ne.symm hm, Ne.symm hg, Ne.symm ht, Ne.symm hp]

/-! ## Case folding a size text -/

/-- Folding characters that each fold to one character maps them. -/
theorem flatMap_foldChar {cs : List Char} {g : Char → Char}
    (h : ∀ c ∈ cs, Text.foldChar c = [g c]) : cs.flatMap Text.foldChar = cs.map g := by
  induction cs with
  | nil => rfl
  | cons c rest ih =>
    simp only [List.flatMap_cons, List.map_cons, h c (by simp),
      ih fun d hd => h d (List.mem_cons_of_mem _ hd), List.singleton_append]

/-- Case folding a size text leaves its digits and blanks and puts its unit in lower case. -/
theorem casefold_size_text {ds : List Char} (hds : ∀ c ∈ ds, c.isDigit = true) {w : String}
    (hw : ∀ c ∈ w.toList, Text.isBlank c = true) {u' u : String} {f : Nat}
    (hunit : (u, f) ∈ byteUnits) (hu : u'.toList.map Char.toLower = u.toList) :
    Text.casefold (String.ofList ds ++ w ++ u') = String.ofList (ds ++ w.toList ++ u.toList) := by
  have hdigits : ds.flatMap Text.foldChar = ds.map id := by
    refine flatMap_foldChar fun c hc => ?_
    have hascii : c.toNat < 128 := by have := toNat_of_isDigit (hds c hc); omega
    rw [Text.foldChar_ascii hascii, toLower_of_isDigit (hds c hc), id]
  have hblanks : w.toList.flatMap Text.foldChar = w.toList.map id :=
    flatMap_foldChar fun c hc => Text.foldChar_of_isBlank (hw c hc)
  -- each letter of the unit is ASCII, since its lower case is a letter of the table
  have hletters : u'.toList.flatMap Text.foldChar = u'.toList.map Char.toLower := by
    refine flatMap_foldChar fun c hc => Text.foldChar_ascii (Char.toNat_lt_of_toLower ?_)
    have hmem : c.toLower ∈ u.toList := hu ▸ List.mem_map_of_mem hc
    exact (byteUnits_lower _ hunit _ hmem).1
  simp only [Text.casefold, String.toList_append, String.toList_ofList, List.flatMap_append, hdigits, hblanks,
    hletters, hu, List.map_id]

/-! ## Reading the number -/

/-- Cutting the trailing blanks of digits followed by blanks leaves the digits. -/
theorem trimEnd_digits_blanks {ds : List Char} (hne : ds ≠ []) (hds : ∀ c ∈ ds, c.isDigit = true)
    {w : List Char} (hw : ∀ c ∈ w, Text.isBlank c = true) :
    Text.trimEnd (String.ofList (ds ++ w)) = String.ofList ds := by
  obtain ⟨init, d, rfl⟩ := List.eq_nil_or_concat ds |>.resolve_left hne
  have hd : Text.isBlank d = false := isBlank_of_isDigit (hds d (by simp))
  have hw' : ∀ c ∈ w.reverse, Text.isBlank c = true := fun c hc => hw c (List.mem_reverse.1 hc)
  unfold Text.trimEnd Text.dropTrailingBlanks Text.dropBlanks
  rw [String.toList_ofList, List.reverse_append, List.dropWhile_append_of_pos hw']
  simp [hd]

/-- Digits without underscores pass the separator check unchanged. -/
theorem dropSeparators_go_of_no_underscore (prev : Char) :
    ∀ {cs : List Char}, '_' ∉ cs → dropSeparators.go prev cs = some cs
  | [], _ => rfl
  | c :: rest, h => by
    have hc : c ≠ '_' := fun e => h (e ▸ List.mem_cons_self ..)
    have hrest : '_' ∉ rest := fun e => h (List.mem_cons_of_mem _ e)
    simp [dropSeparators.go, hc, dropSeparators_go_of_no_underscore c hrest]

theorem dropSeparators_of_no_underscore {cs : List Char} (h : '_' ∉ cs) :
    dropSeparators cs = some cs := by
  cases cs with
  | nil => rfl
  | cons c rest =>
    have hc : c ≠ '_' := fun e => h (e ▸ List.mem_cons_self ..)
    have hrest : '_' ∉ rest := fun e => h (List.mem_cons_of_mem _ e)
    simp [dropSeparators, hc, dropSeparators_go_of_no_underscore c hrest]

/-- A run of ASCII digits reads as its value, unless it has more digits than integers may. -/
theorem readInt_digits {ds : List Char} (hne : ds ≠ []) (hds : ∀ c ∈ ds, c.isDigit = true) :
    readInt (String.ofList ds) =
      if ds.length > maxIntDigits then .error (.tooManyDigits maxIntDigits ds.length)
      else .ok (digitsValue ds) := by
  have hlit : ∀ c ∈ ds, (isAsciiDigit c || c == '_') = true := fun c hc => by
    simp [isAsciiDigit_eq_isDigit, hds c hc]
  have htake : ds.takeWhile (fun c => isAsciiDigit c || c == '_') = ds :=
    List.takeWhile_eq_self_iff.2 hlit
  have hdrop : ds.dropWhile (fun c => isAsciiDigit c || c == '_') = [] :=
    List.dropWhile_eq_nil_iff.2 hlit
  have hcount : (ds.filter isAsciiDigit).length = ds.length := by
    rw [List.filter_eq_self.2 fun c hc => by rw [isAsciiDigit_eq_isDigit, hds c hc]]
  have hsep : dropSeparators ds = some ds :=
    dropSeparators_of_no_underscore fun h => by simpa using hds _ h
  obtain ⟨d, rest, rfl⟩ := List.exists_cons_of_ne_nil hne
  have hd := toNat_of_isDigit (hds d (by simp))
  have hminus : d ≠ '-' := by
    intro e
    subst e
    simp at hd
  have hplus : d ≠ '+' := by
    intro e
    subst e
    simp at hd
  -- folding to ASCII and dropping leading blanks leave the digits as they are
  have hcs : ((String.ofList (d :: rest)).toList.map asciiFold).dropWhile Text.isAsciiBlank =
      d :: rest := by
    have hfix : ∀ c ∈ d :: rest, asciiFold c = id c := fun c hc => by
      have := toNat_of_isDigit (hds c hc)
      simp [asciiFold, show c.toNat < 128 by omega]
    have hblank : Text.isAsciiBlank d = false := by
      simp only [Text.isAsciiBlank, Bool.or_eq_false_iff, beq_eq_false_iff_ne]
      refine ⟨⟨⟨⟨⟨?_, ?_⟩, ?_⟩, ?_⟩, ?_⟩, ?_⟩ <;> intro h <;> subst h <;> simp at hd
    rw [String.toList_ofList, List.map_congr_left hfix, List.map_id, List.dropWhile_cons, hblank]
    rfl
  unfold readInt
  dsimp only
  rw [hcs]
  -- the first split is on the separator check, the second on the sign, which a digit is not
  split
  next heq =>
    exfalso
    split at heq
    · next h => exact hminus (List.cons.inj h).1
    · next h => exact hplus (List.cons.inj h).1
    · simp [htake, hsep] at heq
  next ds' heq =>
    split
    · next h => exact absurd (List.cons.inj h).1 hminus
    · next h => exact absurd (List.cons.inj h).1 hplus
    · simp only [htake, hsep, Option.some.injEq] at heq
      subst heq
      simp only [htake, hdrop, hcount, List.isEmpty_cons, List.all_nil, Bool.not_true,
        Bool.or_false, Bool.false_eq_true, if_false]
      rfl

/-- The value of the decimal digits of `n` is `n`. -/
theorem digitsValue_toDigits (n : Nat) : digitsValue (Nat.toDigits 10 n) = n := by
  have h : digitsValue (Nat.toDigits 10 n) = Nat.ofDigitChars 10 (Nat.toDigits 10 n) 0 := by
    simp [digitsValue, Nat.ofDigitChars, Nat.mul_comm]
  rw [h, Nat.ofDigitChars_ten_toDigits]

/-! ## Sizes -/

section SizeText

variable {ds : List Char} {w u' u : String} {f : Nat}

/-- What `byteCount` looks at in a size text of digits, blanks and a unit: the text is neither
`0` nor `-1`, the first unit of the table to end it is its own, and before that unit, its blanks
cut, stand the digits. -/
theorem size_text_parts (hne : ds ≠ []) (hds : ∀ c ∈ ds, c.isDigit = true)
    (hw : ∀ c ∈ w.toList, Text.isBlank c = true) (hunit : (u, f) ∈ byteUnits)
    (hu : u'.toList.map Char.toLower = u.toList) :
    (String.ofList ds ++ w ++ u' == "0" || String.ofList ds ++ w ++ u' == "-1") = false ∧
    byteUnits.find? (fun x => (Text.casefold (String.ofList ds ++ w ++ u')).endsWith x.1) =
      some (u, f) ∧
    Text.trimEnd (String.ofList ((Text.casefold (String.ofList ds ++ w ++ u')).toList.take
      ((Text.casefold (String.ofList ds ++ w ++ u')).length - u.length))) = String.ofList ds := by
  have hfold := casefold_size_text hds hw hunit hu
  have hfind : byteUnits.find? (fun x => (Text.casefold (String.ofList ds ++ w ++ u')).endsWith
      x.1) = some (u, f) := by
    -- the character before the unit is the last digit or the last blank
    obtain ⟨pre, c, hsplit⟩ : ∃ pre c, ds ++ w.toList = pre ++ [c] :=
      ⟨_, _, (List.dropLast_concat_getLast (by simp [hne])).symm⟩
    have hc : c.isDigit = true ∨ Text.isBlank c = true := by
      have hmem : c ∈ ds ++ w.toList := by simp [hsplit]
      rcases List.mem_append.1 hmem with h | h
      · exact .inl (hds c h)
      · exact .inr (hw c h)
    rw [hfold, hsplit, List.append_assoc, List.singleton_append]
    exact find_unit hc hunit
  refine ⟨?_, hfind, ?_⟩
  · -- neither `0` nor `-1` ends, case-folded, in a unit
    have hzero : byteUnits.find? (fun x => (Text.casefold "0").endsWith x.1) = none := by
      decide +kernel
    have hminus : byteUnits.find? (fun x => (Text.casefold "-1").endsWith x.1) = none := by
      decide +kernel
    simp only [Bool.or_eq_false_iff, beq_eq_false_iff_ne, ne_eq]
    constructor <;> intro h <;> rw [h] at hfind
    · rw [hzero] at hfind
      cases hfind
    · rw [hminus] at hfind
      cases hfind
  · have hlen : (ds ++ w.toList).length =
        (String.ofList (ds ++ w.toList ++ u.toList)).length - u.length := by
      simp only [← String.length_toList, String.toList_ofList, List.length_append]
      omega
    rw [hfold, String.toList_ofList, ← hlen, List.take_left' rfl]
    exact trimEnd_digits_blanks hne hds hw

/-- A size text whose number has at most `maxIntDigits` digits is that number times the factor
of its unit. -/
theorem byteCount_size_text (hne : ds ≠ []) (hds : ∀ c ∈ ds, c.isDigit = true)
    (hw : ∀ c ∈ w.toList, Text.isBlank c = true) (hunit : (u, f) ∈ byteUnits)
    (hu : u'.toList.map Char.toLower = u.toList) (hlen : ds.length ≤ maxIntDigits) :
    byteCount (String.ofList ds ++ w ++ u') = .ok (digitsValue ds * f) := by
  obtain ⟨hspecial, hfind, hrest⟩ := size_text_parts hne hds hw hunit hu
  unfold byteCount
  simp only [hspecial, Bool.false_eq_true, if_false, hfind]
  rw [hrest, readInt_digits hne hds, if_neg (by omega)]

/-- Past `maxIntDigits` digits the number of a size text is read as a double. -/
theorem byteCount_size_text_past_limit (hne : ds ≠ []) (hds : ∀ c ∈ ds, c.isDigit = true)
    (hw : ∀ c ∈ w.toList, Text.isBlank c = true) (hunit : (u, f) ∈ byteUnits)
    (hu : u'.toList.map Char.toLower = u.toList) (hlen : maxIntDigits < ds.length) {x : Binary64}
    (hx : readFloat? (String.ofList ds) = some x) :
    byteCount (String.ofList ds ++ w ++ u') =
      (Scalar.float (if x.isFinite then x.mulFinite (Binary64.ofInt f) else x)).toInt := by
  obtain ⟨hspecial, hfind, hrest⟩ := size_text_parts hne hds hw hunit hu
  unfold byteCount
  simp only [hspecial, Bool.false_eq_true, if_false, hfind]
  rw [hrest, readInt_digits hne hds, if_pos hlen]
  simp only [hx]

end SizeText

/-- A text other than `0` and `-1` that no unit ends, once case-folded, names no unit. -/
theorem byteCount_of_no_unit {t : String} (h0 : t ≠ "0") (h1 : t ≠ "-1")
    (hnone : ∀ p ∈ byteUnits, ¬ p.1.toList <:+ (Text.casefold t).toList) :
    byteCount t = .error (.unknownUnit (Text.casefold t)) := by
  have hspecial : (t == "0" || t == "-1") = false := by
    simp [h0, h1]
  have hfind : byteUnits.find? (fun x => (Text.casefold t).endsWith x.1) = none :=
    List.find?_eq_none.2 fun p hp => by
      rw [Bool.not_eq_true, Bool.eq_false_iff, ne_eq, endsWith_iff_suffix]
      exact hnone p hp
  unfold byteCount
  simp only [hspecial, Bool.false_eq_true, if_false, hfind]


/-! ## Past the digit limit -/

/-- A word that does not begin with the lower case of `d` is not spelled by a text beginning
with `d`. -/
theorem matchesWord_cons {d : Char} {rest : List Char} {word : String} {a : Char}
    {as : List Char} (hword : word.toList = a :: as) (hd : d.toLower ≠ a) :
    matchesWord (d :: rest) word = false := by
  simp [matchesWord, hword, hd]

/-- A run of ASCII digits reads as the double nearest to its value. -/
theorem readFloat_digits {ds : List Char} (hne : ds ≠ []) (hds : ∀ c ∈ ds, c.isDigit = true) :
    readFloat? (String.ofList ds) = some (Binary64.ofDecimal false (digitsValue ds) 0) := by
  have hfix : ∀ c ∈ ds, asciiFold c = id c := fun c hc => by
    have := toNat_of_isDigit (hds c hc)
    simp [asciiFold, show c.toNat < 128 by omega]
  have hsep : dropSeparators ds = some ds :=
    dropSeparators_of_no_underscore fun h => by simpa using hds _ h
  have hdigits : ∀ c ∈ ds, isAsciiDigit c = true := fun c hc => by
    rw [isAsciiDigit_eq_isDigit, hds c hc]
  have hdecimal : readDecimal ds = some (digitsValue ds, 0) := by
    have htake : ds.takeWhile isAsciiDigit = ds := List.takeWhile_eq_self_iff.2 hdigits
    have hdrop : ds.dropWhile isAsciiDigit = [] := List.dropWhile_eq_nil_iff.2 hdigits
    unfold readDecimal
    simp [htake, hdrop, hne]
  -- neither end of the digits is an ASCII blank
  have hblank : ∀ c ∈ ds, Text.isAsciiBlank c = false := fun c hc => by
    have hc' := toNat_of_isDigit (hds c hc)
    simp only [Text.isAsciiBlank, Bool.or_eq_false_iff, beq_eq_false_iff_ne]
    refine ⟨⟨⟨⟨⟨?_, ?_⟩, ?_⟩, ?_⟩, ?_⟩, ?_⟩ <;> intro h <;> subst h <;> simp at hc'
  have htrim : trimAscii ((String.ofList ds).toList.map asciiFold) = ds := by
    rw [String.toList_ofList, List.map_congr_left hfix, List.map_id]
    obtain ⟨d, rest, rfl⟩ := List.exists_cons_of_ne_nil hne
    obtain ⟨init, e, hlast⟩ := List.eq_nil_or_concat (d :: rest) |>.resolve_left hne
    have he : Text.isAsciiBlank e = false := hblank e (by simp [hlast])
    unfold trimAscii
    rw [List.dropWhile_cons, hblank d (by simp)]
    simp [hlast, he]
  obtain ⟨d, rest, rfl⟩ := List.exists_cons_of_ne_nil hne
  have hd := hds d (by simp)
  have hdl : d.toLower = d := toLower_of_isDigit hd
  have hdn := toNat_of_isDigit hd
  have hwords : matchesWord (d :: rest) "inf" = false ∧ matchesWord (d :: rest) "infinity" = false ∧
      matchesWord (d :: rest) "nan" = false := by
    refine ⟨matchesWord_cons (show "inf".toList = 'i' :: ['n', 'f'] by decide) ?_,
      matchesWord_cons (show "infinity".toList = 'i' :: "nfinity".toList by decide) ?_,
      matchesWord_cons (show "nan".toList = 'n' :: ['a', 'n'] by decide) ?_⟩ <;>
    rw [hdl] <;> intro h <;> subst h <;> simp at hdn
  unfold readFloat?
  rw [htrim]
  simp only [hsep, Option.bind_eq_bind, Option.bind_some]
  -- the sign: a digit is neither `-` nor `+`
  split
  · next h => exact absurd (List.cons.inj h).1 (by intro e; subst e; simp at hdn)
  · next h => exact absurd (List.cons.inj h).1 (by intro e; subst e; simp at hdn)
  · simp [hwords.1, hwords.2.1, hwords.2.2, hdecimal]

/-- The decimal digits of a power of ten: a one and as many zeros. -/
theorem toDigits_pow_ten (k : Nat) :
    Nat.toDigits 10 (Nat.pow 10 k) = '1' :: List.replicate k '0' := by
  induction k with
  | zero => decide
  | succ k ih =>
    have hpos : 0 < Nat.pow 10 k := Nat.pow_pos (by decide)
    have happend := Nat.toDigits_append_toDigits (b := 10) (d := 0) (by decide) hpos (by decide)
    rw [Nat.toDigits_zero, ih, Nat.mul_comm, Nat.add_zero] at happend
    show Nat.toDigits 10 (Nat.pow 10 k * 10) = _
    rw [← happend, List.replicate_succ']
    rfl

/-- A number of more than 330 digits overflows to an infinity when read as a double. -/
theorem ofDecimal_of_long {n : Nat} (hpos : 0 < n) (hlong : 330 < Binary64.decimalLength n) :
    Binary64.ofDecimal false n 0 = Binary64.infinity false := by
  unfold Binary64.ofDecimal
  rw [if_neg (Nat.pos_iff_ne_zero.1 hpos), if_pos (by omega)]

/-- A size whose number has more digits than an integer may is read as a double, which
overflows: the size fails to convert. -/
theorem byteCount_past_digit_limit {n : Nat} (hn : maxIntDigits < (Nat.repr n).length)
    {w u' u : String} {f : Nat} (hw : ∀ c ∈ w.toList, Text.isBlank c = true)
    (hunit : (u, f) ∈ byteUnits) (hu : u'.toList.map Char.toLower = u.toList) :
    byteCount (Nat.repr n ++ w ++ u') = .error .infinityToInt := by
  have hds : ∀ c ∈ Nat.toDigits 10 n, c.isDigit = true :=
    fun c hc => Nat.isDigit_of_mem_toDigits (by decide) (by decide) hc
  have hlen : maxIntDigits < (Nat.toDigits 10 n).length := by
    simpa [Nat.repr_eq_ofList_toDigits] using hn
  -- so many digits make a positive number far beyond the largest double
  have hpos : 0 < n := by
    rcases Nat.eq_zero_or_pos n with rfl | h
    · simp [Nat.toDigits_zero, maxIntDigits] at hlen
    · exact h
  have hinf : Binary64.ofDecimal false (digitsValue (Nat.toDigits 10 n)) 0 =
      Binary64.infinity false := by
    rw [digitsValue_toDigits]
    refine ofDecimal_of_long hpos ?_
    rw [Binary64.decimalLength]
    simp only [maxIntDigits] at hlen
    omega
  rw [Nat.repr_eq_ofList_toDigits, byteCount_size_text_past_limit Nat.toDigits_ne_nil hds hw
    hunit hu hlen (readFloat_digits Nat.toDigits_ne_nil hds), hinf]
  have hfinite : (Binary64.infinity false).isFinite = false := by decide
  have hnan : (Binary64.infinity false).isNaN = false := by decide
  have htrunc : (Binary64.infinity false).trunc? = none := by
    simp [Binary64.trunc?, hfinite]
  simp [Scalar.toInt, hfinite, hnan, htrunc]

/-- `1` followed by `maxIntDigits` (4300) zeros, with the unit `k`, has one digit more than an
integer may: the size fails to convert where the product `10 ^ 4300 * 1024` was expected. -/
theorem byteCount_overflows_past_digit_limit :
    byteCount (Nat.repr (Nat.pow 10 maxIntDigits) ++ "" ++ "k") = .error .infinityToInt := by
  have hlong : maxIntDigits < (Nat.repr (Nat.pow 10 maxIntDigits)).length := by
    rw [Nat.repr_eq_ofList_toDigits, String.length_ofList, toDigits_pow_ten, List.length_cons,
      List.length_replicate]
    omega
  exact byteCount_past_digit_limit hlong (by simp) (by decide : ("k", Nat.pow 2 10) ∈ byteUnits)
    (by decide)

/-! ## Sizes read back -/

/-- A size written as a decimal number, a run of blanks and a unit of the table in any ASCII
letter case reads back as the number times the unit's factor when the number has at most 4300
digits, and overflows past that. A text other than `0` and `-1` that does not end, case-folded,
in a unit fails with a `ValueError` naming the folded text. -/
theorem byte_sizes_read_back :
    (∀ (n : Nat) (w u' u : String) (f : Nat), (∀ c ∈ w.toList, Text.isBlank c = true) →
      (u, f) ∈ byteUnits → u'.toList.map Char.toLower = u.toList →
      byteCount (Nat.repr n ++ w ++ u') =
        if (Nat.repr n).length ≤ 4300 then .ok (n * f) else .error .infinityToInt) ∧
    (∀ t : String, t ≠ "0" → t ≠ "-1" →
      (∀ p ∈ byteUnits, ¬ p.1.toList <:+ (Text.casefold t).toList) →
      byteCount t = .error (.unknownUnit (Text.casefold t)) ∧
      (Error.unknownUnit (Text.casefold t)).kind = "ValueError" ∧
      (Error.unknownUnit (Text.casefold t)).message =
        some ("Missing or unrecognized unit: " ++ Text.casefold t)) := by
  refine ⟨fun n w u' u f hw hunit hu => ?_, fun t h0 h1 hnone => ⟨byteCount_of_no_unit h0 h1 hnone,
    rfl, rfl⟩⟩
  by_cases hlen : (Nat.repr n).length ≤ 4300
  · have hds : ∀ c ∈ Nat.toDigits 10 n, c.isDigit = true :=
      fun c hc => Nat.isDigit_of_mem_toDigits (by decide) (by decide) hc
    have hlen' : (Nat.toDigits 10 n).length ≤ maxIntDigits := by
      simpa [Nat.repr_eq_ofList_toDigits, maxIntDigits] using hlen
    rw [if_pos hlen, Nat.repr_eq_ofList_toDigits,
      byteCount_size_text Nat.toDigits_ne_nil hds hw hunit hu hlen', digitsValue_toDigits]
  · rw [if_neg hlen]
    exact byteCount_past_digit_limit (by simp only [maxIntDigits]; omega) hw hunit hu

/-- `12 KB` reads as twelve kilobytes, and `12 x` names no unit. -/
theorem twelve_kilobytes_read_back :
    ((∀ c ∈ " ".toList, Text.isBlank c = true) ∧ ("kb", Nat.pow 2 10) ∈ byteUnits ∧
      "KB".toList.map Char.toLower = "kb".toList ∧
      byteCount (Nat.repr 12 ++ " " ++ "KB") = .ok 12288) ∧
    ("12 x" ≠ "0" ∧ "12 x" ≠ "-1" ∧
      (∀ p ∈ byteUnits, ¬ p.1.toList <:+ (Text.casefold "12 x").toList) ∧
      byteCount "12 x" = .error (.unknownUnit (Text.casefold "12 x"))) := by
  have hblank : ∀ c ∈ " ".toList, Text.isBlank c = true := List.all_eq_true.1 (by decide)
  have hsize := byte_sizes_read_back.1 12 " " "KB" "kb" (Nat.pow 2 10) hblank (by decide)
    (by decide)
  have hnone : ∀ p ∈ byteUnits, ¬ p.1.toList <:+ (Text.casefold "12 x").toList := by
    decide +kernel
  rw [if_pos (by decide)] at hsize
  exact ⟨⟨hblank, by decide, by decide, hsize⟩, ⟨by decide, by decide, hnone,
    (byte_sizes_read_back.2 "12 x" (by decide) (by decide) hnone).1⟩⟩

end Ingest
