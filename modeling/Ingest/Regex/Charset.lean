import Ingest.Regex.Parse
import Ingest.Text.Case

/-!
# Regular expressions: the characters a character or a set accepts

Without the ignore-case flag, a character of the pattern accepts itself and a set accepts the
characters its members name. Classes (`\d`, `\s`, `\w`) follow Unicode unless the ASCII flag
is set.

Under the ignore-case flag characters are compared by their lower case. The lower and upper
case of a character are single characters (`Text.lowerFirst`, `Text.upperFirst`); under the
ASCII flag only `A` to `Z` and `a` to `z` change case. A character is cased when either of
them differs from it.

* A character of the pattern that is not cased accepts only itself. A cased one accepts the
  characters whose lower case is its own, or is one that shares an upper case with it (`s`
  and `ſ`, `σ` and `ς`).
* A negated set of one character (the parser makes any other set of one character that
  character) accepts what the character does not.
* Any other set is matched on the lower case of the character when one of its members is
  cased (a member beyond the Basic Multilingual Plane counts as cased), and on the character
  itself otherwise. Within the plane, a character member stands for its lower case and those
  that share its upper case, and a range for the same of each of its characters; beyond the
  plane, a character member stands for itself alone, and a range also holds a character whose
  upper case lies in it.

`SetItem.holdsFolded` decides membership by the preimages of the lower case sought
(`Text.lowerPreimages`), so a range is never walked.
-/

namespace Ingest.Regex

/-- The last code point of the Basic Multilingual Plane. -/
def planeEnd : Nat := 0xFFFF

namespace Flags

/-- Whether characters are classified as ASCII only. -/
def asciiOnly (f : Flags) : Bool := !f.unicode

/-- The lower case of a code point under the flags. -/
def lower (f : Flags) (n : Nat) : Nat :=
  if f.asciiOnly then (if 65 ≤ n && n ≤ 90 then n + 32 else n) else Text.lowerFirst n

/-- The upper case of a code point under the flags. -/
def upper (f : Flags) (n : Nat) : Nat :=
  if f.asciiOnly then (if 97 ≤ n && n ≤ 122 then n - 32 else n) else Text.upperFirst n

/-- Whether a code point is cased under the flags. -/
def isCased (f : Flags) (n : Nat) : Bool :=
  if f.asciiOnly then (65 ≤ n && n ≤ 90) || (97 ≤ n && n ≤ 122)
  else f.lower n != n || f.upper n != n

/-- Whether a code point from `lo` to `hi` is cased under the flags. -/
def casedWithin (f : Flags) (lo hi : Nat) : Bool :=
  if f.asciiOnly then (lo ≤ 90 && 65 ≤ hi) || (lo ≤ 122 && 97 ≤ hi)
  else Text.casedWithin lo hi

/-- The lower-case code points that share an upper case with the lower-case `n`, `n` itself
first; under the ASCII flag, `n` alone. -/
def sharingUpper (f : Flags) (n : Nat) : List Nat :=
  if f.asciiOnly then [n]
  else n :: ((Text.sharedUpperClasses.find? (·.contains n)).getD []).filter (· != n)

/-- Whether a code point from `lo` to `hi` has the lower case `m` under the flags. -/
def lowersTo (f : Flags) (lo hi m : Nat) : Bool :=
  let within (c : Nat) : Bool := lo ≤ c && c ≤ hi
  (within m && f.lower m == m) ||
    (if f.asciiOnly then 97 ≤ m && m ≤ 122 && within (m - 32)
     else (Text.lowerPreimages m).any within)

/-- Whether two code points are the same character under the flags, as a back reference
compares them: by their lower cases under the ignore-case flag. -/
def same (f : Flags) (a b : Nat) : Bool :=
  if f.ignoreCase then f.lower a == f.lower b else a == b

end Flags

/-- Whether a character is of a class. -/
def Category.holds (asciiOnly : Bool) : Category → Char → Bool
  | .digit, c => if asciiOnly then isAsciiDigit c else Text.isDecimal c
  | .space, c => if asciiOnly then Text.isAsciiBlank c else Text.isBlank c
  | .word, c => if asciiOnly then c.isAlphanum || c == '_' else Text.isWordChar c

/-- Whether the character `p` of the pattern accepts the code point `n` under the flags. -/
def literalHolds (f : Flags) (p n : Nat) : Bool :=
  if f.ignoreCase && f.isCased p then (f.sharingUpper (f.lower p)).contains (f.lower n)
  else n == p

namespace SetItem

/-- Whether a set member holds the code point `n`, case counting. -/
def holds (f : Flags) (n : Nat) : SetItem → Bool
  | .char c => c == n
  | .range lo hi => lo ≤ n && n ≤ hi
  | .category k negated => k.holds f.asciiOnly (Char.ofNat n) != negated

/-- Whether a member makes its set match on lower cases under the ignore-case flag. -/
def isCased (f : Flags) : SetItem → Bool
  | .char c => c > planeEnd || f.isCased c
  | .range lo hi => hi > planeEnd || f.casedWithin lo hi
  | .category .. => false

/-- Whether a set member holds the code point `n` under the ignore-case flag. -/
def holdsFolded (f : Flags) (n : Nat) : SetItem → Bool
  | .char c => if c > planeEnd then c == n else (f.sharingUpper (f.lower c)).contains n
  | .range lo hi =>
    (lo ≤ planeEnd && (f.sharingUpper n).any (f.lowersTo lo (Nat.min hi planeEnd))) ||
      (hi > planeEnd &&
        ((lo ≤ n && n ≤ hi) || (let u := Text.upperFirst n; lo ≤ u && u ≤ hi)))
  | .category k negated => k.holds f.asciiOnly (Char.ofNat n) != negated

end SetItem

/-- Whether a set accepts the code point `n` under the flags. -/
def setHolds (f : Flags) (negated : Bool) (items : List SetItem) (n : Nat) : Bool :=
  match items with
  | [.char p] => literalHolds f p n != negated
  | _ =>
    if f.ignoreCase && items.any (·.isCased f) then
      items.any (·.holdsFolded f (f.lower n)) != negated
    else items.any (·.holds f n) != negated

end Ingest.Regex
