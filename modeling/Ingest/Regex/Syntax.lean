/-!
# Regular expressions: syntax

A pattern is parsed into a `Node` tree. Flags that a group sets for its body stay on the group
(`Node.group` holds what it adds and what it removes), and the flags set for the whole pattern
stay on the `Pattern`, so that the matcher knows at every node which flags are in force.

`Node.width` gives the least and the greatest number of characters a node can match (none for
no bound); a repetition of at most zero rounds has width zero whatever its body. A look-behind
needs a body whose two widths agree, since it is matched from a fixed distance before the
position.
-/

namespace Ingest.Regex

/-- A class of characters that an escape names. -/
inductive Category where
  | digit
  | space
  | word
deriving DecidableEq, Repr

/-- One member of a bracketed set. -/
inductive SetItem where
  /-- A character, by its code point. -/
  | char (c : Nat)
  /-- The code points from `lo` to `hi`. -/
  | range (lo hi : Nat)
  | category (c : Category) (negated : Bool)
deriving DecidableEq, Repr

/-- The flags that change how a pattern matches. -/
structure Flags where
  ignoreCase : Bool
  multiline : Bool
  dotAll : Bool
  verbose : Bool
  ascii : Bool
  unicode : Bool
  locale : Bool
  template : Bool
deriving DecidableEq, Repr

namespace Flags

/-- No flag set. -/
def none : Flags := ⟨false, false, false, false, false, false, false, false⟩

/-- The flags of `f` together with those of `g`. -/
def union (f g : Flags) : Flags :=
  ⟨f.ignoreCase || g.ignoreCase, f.multiline || g.multiline, f.dotAll || g.dotAll,
   f.verbose || g.verbose, f.ascii || g.ascii, f.unicode || g.unicode, f.locale || g.locale,
   f.template || g.template⟩

/-- The flags of `f` that `g` does not set. -/
def diff (f g : Flags) : Flags :=
  ⟨f.ignoreCase && !g.ignoreCase, f.multiline && !g.multiline, f.dotAll && !g.dotAll,
   f.verbose && !g.verbose, f.ascii && !g.ascii, f.unicode && !g.unicode,
   f.locale && !g.locale, f.template && !g.template⟩

/-- The flags that both `f` and `g` set. -/
def inter (f g : Flags) : Flags := f.diff (f.diff g)

/-- Whether no flag is set. -/
def isNone (f : Flags) : Bool := f == none

/-- Whether one of the flags that choose how characters are classified is set. -/
def hasType (f : Flags) : Bool := f.ascii || f.unicode || f.locale

/-- The flags in force in a body that adds `add` and removes `remove`; a body that chooses
how characters are classified drops the choice of the pattern around it. -/
def scope (f add remove : Flags) : Flags :=
  let f := if add.hasType then { f with ascii := false, unicode := false, locale := false } else f
  (f.union add).diff remove

/-- The flag that a letter names in a pattern. -/
def ofLetter? : Char → Option Flags
  | 'i' => some { none with ignoreCase := true }
  | 'm' => some { none with multiline := true }
  | 's' => some { none with dotAll := true }
  | 'x' => some { none with verbose := true }
  | 'a' => some { none with ascii := true }
  | 'u' => some { none with unicode := true }
  | 'L' => some { none with locale := true }
  | 't' => some { none with template := true }
  | _ => Option.none

end Flags

/-- A position that a pattern asserts without matching a character. -/
inductive Anchor where
  /-- The start of the text, or of a line under the multiline flag. -/
  | lineStart
  /-- The end of the text or before a final line feed, or the end of a line under the
  multiline flag. -/
  | lineEnd
  | textStart
  | textEnd
  | wordBoundary
  | notWordBoundary
deriving DecidableEq, Repr

/-- How a repetition chooses its count. -/
inductive Greed where
  /-- As many as can be, giving back on failure. -/
  | greedy
  /-- As few as can be, taking more on failure. -/
  | lazy
  /-- As many as can be, never giving back. -/
  | possessive
deriving DecidableEq, Repr

/-- A parsed pattern. -/
inductive Node where
  /-- A sequence, matched left to right. -/
  | seq (items : List Node)
  /-- Alternatives, tried in order. -/
  | alt (branches : List Node)
  /-- A character, by its code point (which may be one that no text holds). -/
  | char (c : Nat)
  /-- Any character, a line feed only under the dot-all flag. -/
  | any
  | set (negated : Bool) (items : List SetItem)
  | anchor (a : Anchor)
  /-- A group: capturing when it has an index; its body runs with the flags `add` set and
  `remove` cleared. -/
  | group (index : Option Nat) (add remove : Flags) (body : Node)
  /-- A look-ahead (`behind` none) or a look-behind by a fixed number of characters, asserting
  that its body matches there or (negated) does not. -/
  | look (behind : Option Nat) (negated : Bool) (body : Node)
  /-- A body matched once, never backtracked into. -/
  | atomic (body : Node)
  | loop (body : Node) (min : Nat) (max : Option Nat) (greed : Greed)
  /-- The text a group captured. -/
  | backref (index : Nat)
  /-- `yes` when the group has captured, else `no`. -/
  | ifGroup (index : Nat) (yes no : Node)
deriving Repr, Inhabited

/-- A compiled pattern: its text, its tree, the flags for the whole of it and its number of
capturing groups. -/
structure Pattern where
  source : String
  root : Node
  flags : Flags
  groups : Nat
deriving Repr

/-- A width bound: a number, or none for no bound. -/
abbrev Bound := Option Nat

namespace Bound

/-- The sum of two bounds. -/
def add : Bound → Bound → Bound
  | some a, some b => some (a + b)
  | _, _ => none

/-- The larger of two bounds. -/
def max : Bound → Bound → Bound
  | some a, some b => some (Nat.max a b)
  | _, _ => none

end Bound

mutual
/-- The least and greatest widths of a node; `groupWidth` gives those of the group a back
reference names. -/
def Node.width (groupWidth : Nat → Nat × Bound) : Node → Nat × Bound
  | .seq items => Node.widthSeq groupWidth items
  | .alt branches => Node.widthAlt groupWidth branches
  | .char _ | .any | .set .. => (1, some 1)
  | .anchor _ | .look .. => (0, some 0)
  | .group _ _ _ body | .atomic body => body.width groupWidth
  | .loop body lo hi _ =>
    let (l, h) := body.width groupWidth
    (l * lo, match hi, h with
      | some n, some m => some (m * n)
      | some 0, none | none, some 0 => some 0
      | _, _ => none)
  | .backref i => groupWidth i
  | .ifGroup _ yes no =>
    let (l₁, h₁) := yes.width groupWidth
    let (l₂, h₂) := no.width groupWidth
    (Nat.min l₁ l₂, h₁.max h₂)

/-- The widths of a sequence: the sums of its items' widths. -/
def Node.widthSeq (groupWidth : Nat → Nat × Bound) : List Node → Nat × Bound
  | [] => (0, some 0)
  | n :: ns =>
    let (l, h) := n.width groupWidth
    let (ls, hs) := Node.widthSeq groupWidth ns
    (l + ls, h.add hs)

/-- The widths of alternatives: the least of the least, the greatest of the greatest. -/
def Node.widthAlt (groupWidth : Nat → Nat × Bound) : List Node → Nat × Bound
  | [] => (0, some 0)
  | [n] => n.width groupWidth
  | n :: ns =>
    let (l, h) := n.width groupWidth
    let (ls, hs) := Node.widthAlt groupWidth ns
    (Nat.min l ls, h.max hs)
end

end Ingest.Regex
