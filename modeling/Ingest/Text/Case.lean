import Ingest.Text.CaseTable

/-!
# Case maps of text

Lower-casing, upper-casing and case folding with the full mappings of Unicode 14.0: one
character may become several (`ß` upper-cases to `SS`, `İ` lower-cases to `i` and a combining
dot). Lower-casing also applies the one context rule of the standard: a capital sigma becomes
the final form `ς` when a cased letter precedes it (case-ignorable characters skipped) and no
cased letter follows it (likewise).

Case folding is lower-casing with the folding exceptions of the table, and without the
final-sigma rule.

Where one character must stand for a case, it is the first of the full mapping
(`lowerFirst`, `upperFirst`); `lowerPreimages` inverts `lowerFirst`, and
`lowerFirst_of_mem_lowerPreimages` says that what it gives does map back.
-/

namespace Ingest.Text

/-- The image of `c` under the run of `t` that holds it, if that run maps it. -/
def CaseRun.image? (t : Array CaseRun) (c : Nat) : Option Nat :=
  match Ranges.find? t (fun r => (r.lo, r.hi)) c with
  | some r => if (c - r.lo) % r.stride == 0 then some (Int.toNat (c + r.delta)) else none
  | none => none

/-- The text that the exception list `t` gives for `c`, if it names `c`. -/
def specialImage? (t : Array (Nat × String)) (c : Nat) : Option (List Char) :=
  (Ranges.find? t (fun e => (e.1, e.1)) c).map (·.2.toList)

/-- The full mapping of `c` by an exception list and a run table, `c` itself when neither
names it. -/
def mapChar (special : Array (Nat × String)) (runs : Array CaseRun) (c : Char) : List Char :=
  match specialImage? special c.toNat with
  | some s => s
  | none =>
    match CaseRun.image? runs c.toNat with
    | some n => [Char.ofNat n]
    | none => [c]

/-- Whether `c` is a cased letter. -/
def isCased (c : Char) : Bool := casedRanges.contains c.toNat

/-- Whether `c` is ignored when looking for the cased letters around a sigma. -/
def isCaseIgnorable (c : Char) : Bool := caseIgnorableRanges.contains c.toNat

/-- The full lower-case mapping of one character, out of context. -/
def lowerChar (c : Char) : List Char := mapChar lowerSpecial lowerRuns c

/-- The full upper-case mapping of one character. -/
def upperChar (c : Char) : List Char := mapChar upperSpecial upperRuns c

/-- The full case folding of one character. -/
def foldChar (c : Char) : List Char :=
  match specialImage? foldSpecial c.toNat with
  | some s => s
  | none =>
    match CaseRun.image? foldRuns c.toNat with
    | some n => [Char.ofNat n]
    | none => lowerChar c

/-- A capital sigma between `before` (nearest first) and `after` is final: a cased letter
precedes it and none follows it, case-ignorable characters skipped on both sides. -/
def finalSigma (before after : List Char) : Bool :=
  let preceded := match before.dropWhile isCaseIgnorable with
    | c :: _ => isCased c
    | [] => false
  let followed := match after.dropWhile isCaseIgnorable with
    | c :: _ => isCased c
    | [] => false
  preceded && !followed

/-- The capital sigma. -/
def capitalSigma : Char := 'Σ'

/-- Lower-case the characters `rest`, preceded by `before` (nearest first), onto `acc`
(reversed). -/
def lowerFrom (before : List Char) : List Char → List Char → List Char
  | [], acc => acc.reverse
  | c :: rest, acc =>
    let image :=
      if c == capitalSigma then
        if finalSigma before rest then ['ς'] else ['σ']
      else lowerChar c
    lowerFrom (c :: before) rest (image.reverse ++ acc)

/-- The text in lower case. -/
def lower (s : String) : String := String.ofList (lowerFrom [] s.toList [])

/-- The first character of the mapping `map` of code point `n`, `n` itself when it is no
character. -/
def firstOf (map : Char → List Char) (n : Nat) : Nat :=
  let c := Char.ofNat n
  if c.toNat != n then n else ((map c).head?.map Char.toNat).getD n

/-- The lower case of a code point as one character: the first of its full mapping (`İ` gives
`i`). -/
def lowerFirst (n : Nat) : Nat := firstOf lowerChar n

/-- The upper case of a code point as one character: the first of its full mapping (`ß` gives
`S`). -/
def upperFirst (n : Nat) : Nat := firstOf upperChar n

/-- Whether the run maps a code point from `lo` to `hi`: the first code point it maps from
`lo` on is at most `hi`. -/
def CaseRun.meets (r : CaseRun) (lo hi : Nat) : Bool :=
  let step := Nat.max r.stride 1
  let first := if lo ≤ r.lo then r.lo else r.lo + (lo - r.lo + step - 1) / step * step
  first ≤ hi && first ≤ r.hi

/-- Whether a code point from `lo` to `hi` changes under lower-casing or upper-casing. -/
def casedWithin (lo hi : Nat) : Bool :=
  (lowerRuns ++ upperRuns).any (fun r => r.delta != 0 && r.meets lo hi) ||
  (lowerSpecial ++ upperSpecial).any fun (n, _) => lo ≤ n && n ≤ hi

/-- The code points other than `m` whose lower case (`lowerFirst`) is `m`: the candidates are
those a run of lower-case mappings takes to `m` and those with a mapping to several
characters, each checked. -/
def lowerPreimages (m : Nat) : List Nat :=
  let fromRuns := lowerRuns.toList.filterMap fun r =>
    let c := (m : Int) - r.delta
    if c < 0 then none else some c.toNat
  (fromRuns ++ lowerSpecial.toList.map (·.1)).filter fun c => c != m && lowerFirst c == m

theorem lowerFirst_of_mem_lowerPreimages {c m : Nat} (h : c ∈ lowerPreimages m) :
    c ≠ m ∧ lowerFirst c = m := by
  unfold lowerPreimages at h
  simp only [List.mem_filter, Bool.and_eq_true, bne_iff_ne, ne_eq, beq_iff_eq] at h
  exact h.2

/-- The text in upper case. -/
def upper (s : String) : String := String.ofList (s.toList.flatMap upperChar)

/-- The text case-folded, for caseless comparison. -/
def casefold (s : String) : String := String.ofList (s.toList.flatMap foldChar)

end Ingest.Text
