/-!
# Classes of characters

A property of code points is stored as a sorted array of disjoint closed ranges. A lookup
halves the array until it finds the range that holds the code point, so a table of a few
hundred ranges costs a handful of comparisons per character.

`Ranges.find?` works over any entry type that names its span, so a table can attach data to
each range (a case mapping run, the value of a digit block); `Ranges.contains` is the plain
membership test.

Two small classes are kept here beside the tables: the decimal digits of every script, and the
blank characters that trimming removes.
-/

namespace Ingest.Text

/-- A table of code point ranges: sorted, pairwise disjoint, each `(lo, hi)` closed. -/
abbrev Ranges := Array (Nat × Nat)

/-- The entry of `t` whose span holds `c`, searched among the indices `[lo, hi)`. -/
def Ranges.findIn {α : Type} (t : Array α) (span : α → Nat × Nat) (c lo hi : Nat) :
    Option α :=
  if lo < hi then
    let mid := (lo + hi) / 2
    match t[mid]? with
    | none => none
    | some e =>
      if c < (span e).1 then findIn t span c lo mid
      else if (span e).2 < c then findIn t span c (mid + 1) hi
      else some e
  else none
termination_by hi - lo

/-- The entry of the sorted table `t` whose span holds `c`. -/
def Ranges.find? {α : Type} (t : Array α) (span : α → Nat × Nat) (c : Nat) : Option α :=
  Ranges.findIn t span c 0 t.size

/-- Whether one of the ranges of `t` holds `c`. -/
def Ranges.contains (t : Ranges) (c : Nat) : Bool :=
  (Ranges.find? t id c).isSome

/-! ## Decimal digits

The characters of general category Nd come in blocks of ten consecutive code points, the
digits zero to nine in order (Unicode 14.0). Reading a number accepts a digit of any block;
`decimalValue?` gives its value.
-/

/-- The first code point (the zero) of each block of decimal digits, in increasing order. -/
def digitBlockStarts : Array Nat := #[
  0x30, 0x660, 0x6F0, 0x7C0, 0x966, 0x9E6, 0xA66, 0xAE6,
  0xB66, 0xBE6, 0xC66, 0xCE6, 0xD66, 0xDE6, 0xE50, 0xED0,
  0xF20, 0x1040, 0x1090, 0x17E0, 0x1810, 0x1946, 0x19D0, 0x1A80,
  0x1A90, 0x1B50, 0x1BB0, 0x1C40, 0x1C50, 0xA620, 0xA8D0, 0xA900,
  0xA9D0, 0xA9F0, 0xAA50, 0xABF0, 0xFF10, 0x104A0, 0x10D30, 0x11066,
  0x110F0, 0x11136, 0x111D0, 0x112F0, 0x11450, 0x114D0, 0x11650, 0x116C0,
  0x11730, 0x118E0, 0x11950, 0x11C50, 0x11D50, 0x11DA0, 0x16A60, 0x16AC0,
  0x16B50, 0x1D7CE, 0x1D7D8, 0x1D7E2, 0x1D7EC, 0x1D7F6, 0x1E140, 0x1E2F0,
  0x1E950, 0x1FBF0
]

/-- The value of `c` as a decimal digit, if it is one in any script. -/
def decimalValue? (c : Char) : Option Nat :=
  (Ranges.find? digitBlockStarts (fun z => (z, z + 9)) c.toNat).map (c.toNat - ·)

/-- Whether `c` is a decimal digit of some script. -/
def isDecimal (c : Char) : Bool := (decimalValue? c).isSome

/-! ## Blank characters

The blank (white space) characters of Unicode 14.0 in the sense of text processing: the
ASCII controls tab to carriage return, the four information separators U+001C to U+001F, the
space, next line, no-break space, and the Zs, Zl and Zp separators. Trimming text removes them
at both ends.
-/

/-- Whether `c` is a blank character. -/
def isBlank (c : Char) : Bool :=
  let n := c.toNat
  (0x09 ≤ n && n ≤ 0x0D) || (0x1C ≤ n && n ≤ 0x20) || n == 0x85 || n == 0xA0 ||
    n == 0x1680 || (0x2000 ≤ n && n ≤ 0x200A) || n == 0x2028 || n == 0x2029 ||
    n == 0x202F || n == 0x205F || n == 0x3000

/-- Whether `c` is one of the six ASCII blanks: space, tab, line feed, vertical tab, form
feed, carriage return. -/
def isAsciiBlank (c : Char) : Bool :=
  c == ' ' || c == '\t' || c == '\n' || c == '\x0b' || c == '\x0c' || c == '\r'

/-- The characters without the blanks at their start. -/
def dropBlanks (cs : List Char) : List Char := cs.dropWhile isBlank

/-- The characters without the blanks at their end. -/
def dropTrailingBlanks (cs : List Char) : List Char := (dropBlanks cs.reverse).reverse

/-- The text without blanks at either end. -/
def trim (s : String) : String := String.ofList (dropTrailingBlanks (dropBlanks s.toList))

/-- The text without blanks at its end. -/
def trimEnd (s : String) : String := String.ofList (dropTrailingBlanks s.toList)

end Ingest.Text
