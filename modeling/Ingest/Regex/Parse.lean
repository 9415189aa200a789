import Ingest.Regex.Syntax
import Ingest.Text.Word
import Ingest.Text.Chars
import Ingest.Text.Identifier

/-!
# Regular expressions: parsing

`Pattern.compile` reads a pattern into a `Pattern`, or gives none when the pattern is not well
formed. The text is read in tokens: a character, or a backslash with the character after it, so
that an escaped character never closes a group, a set or a name. A backslash that ends the
pattern makes it malformed.

The grammar: alternatives separated by `|`; items that are characters, `.`, `^`, `$`, sets in
brackets, escapes, and groups; each item may be followed by `*`, `+`, `?` or `{m,n}`, then by
`?` (as few as can be) or `+` (never give back). A brace that does not open a well-formed count
is an ordinary character. Groups are capturing `(…)`, named `(?P<name>…)`, non-capturing
`(?:…)`, atomic `(?>…)`, look-arounds `(?=…)`, `(?!…)`, `(?<=…)`, `(?<!…)`, conditionals
`(?(group)yes|no)`, comments `(?#…)`, flag groups `(?flags-flags:…)` and, only at the very start
of the pattern, global flags `(?flags)`. Under the verbose flag, blanks and comments from `#` to
the end of the line are skipped between items.

The tree keeps what matching can tell apart and no more: a set lists each member once, and a
set of one character that is not negated is that character; alternatives that begin with the
same item match it once before them (`Node.ofAlternatives`), and alternatives that are each one
character or one set that is not negated become one set, which matters under the ignore-case
flag (see `Regex.Charset`).

The checks follow from what a matcher can do: a count applies to an item that matches text,
once; a back reference names a group that is already closed; a look-behind has a fixed width,
at most `lookBehindLimit`, and refers to no group opened inside it; a character range goes
upwards; an octal escape stays below 256.
-/

namespace Ingest.Regex

/-- A unit of pattern text: a character, or a backslash with the character after it. -/
inductive Token where
  | plain (c : Char)
  | escaped (c : Char)
deriving DecidableEq

/-- What the parser knows: the text left, the groups opened so far, the widths of those
closed, the group names, where the look-behind being read started counting groups, the group
numbers that conditionals named, and the flags set for the whole pattern. -/
structure ParseState where
  rest : List Char
  opened : Nat
  widths : List (Nat × (Nat × Bound))
  names : List (String × Nat)
  behindFrom : Option Nat
  condRefs : List Nat
  flags : Flags

/-- A reader of pattern text: it fails (none) on a malformed pattern. -/
abbrev Reader := StateT ParseState Option

/-- The largest count a repetition may name, plus one. -/
def repeatLimit : Nat := 4294967295

/-- The farthest back a look-behind may look. -/
def lookBehindLimit : Nat := 4294967295

namespace Reader

/-- The failure of a malformed pattern. -/
def fail {α : Type} : Reader α := fun _ => Option.none

/-- The next token, not consumed. -/
def peek : Reader (Option Token) := do
  match (← get).rest with
  | [] => return none
  | ['\\'] => fail
  | '\\' :: c :: _ => return some (.escaped c)
  | c :: _ => return some (.plain c)

/-- The next token, consumed. -/
def next : Reader (Option Token) := do
  let t ← peek
  match t with
  | some (.plain _) => modify fun s => { s with rest := s.rest.drop 1 }
  | some (.escaped _) => modify fun s => { s with rest := s.rest.drop 2 }
  | none => pure ()
  return t

/-- Consume the character `c` if it comes next. -/
def eat (c : Char) : Reader Bool := do
  if (← peek) == some (.plain c) then
    let _ ← next
    return true
  else return false

/-- Consume the character `c`, which must come next. -/
def expect (c : Char) : Reader Unit := do
  unless ← eat c do fail

/-- Up to `n` characters that satisfy `p`. -/
def takeWhile (p : Char → Bool) : Nat → Reader (List Char)
  | 0 => return []
  | n + 1 => do
    match ← peek with
    | some (.plain c) =>
      if p c then
        let _ ← next
        return c :: (← takeWhile p n)
      else return []
    | _ => return []

/-- The text before the character `t`, which is consumed; it may not be empty, and `fuel`
bounds its length. -/
def upTo (t : Char) : Nat → List Char → Reader String
  | 0, _ => fail
  | fuel + 1, acc => do
    match ← next with
    | none => fail
    | some (.plain c) =>
      if c == t then
        if acc.isEmpty then fail else return String.ofList acc.reverse
      else upTo t fuel (c :: acc)
    | some (.escaped c) => upTo t fuel (c :: '\\' :: acc)

/-- Skip tokens up to and with `t`; the pattern may not end first. -/
def skipPast (t : Char) : Nat → Reader Unit
  | 0 => fail
  | fuel + 1 => do
    match ← next with
    | none => fail
    | some tok => if tok == .plain t then return () else skipPast t fuel

/-- Skip tokens up to and with a line feed, or to the end. -/
def skipLine : Nat → Reader Unit
  | 0 => return ()
  | fuel + 1 => do
    match ← next with
    | none => return ()
    | some tok => if tok == .plain '\n' then return () else skipLine fuel

end Reader

open Reader

/-- Whether `c` is an ASCII digit. -/
def isAsciiDigit (c : Char) : Bool := '0' ≤ c && c ≤ '9'

/-- Whether `c` is an octal digit. -/
def isOctDigit (c : Char) : Bool := '0' ≤ c && c ≤ '7'

/-- Whether `c` is a hexadecimal digit. -/
def isHexDigit (c : Char) : Bool :=
  isAsciiDigit c || ('a' ≤ c && c ≤ 'f') || ('A' ≤ c && c ≤ 'F')

/-- Whether `c` is an ASCII letter. -/
def isAsciiLetter (c : Char) : Bool := ('a' ≤ c && c ≤ 'z') || ('A' ≤ c && c ≤ 'Z')

/-- Whether `c` is skipped between items under the verbose flag. -/
def isVerboseBlank (c : Char) : Bool := Text.isAsciiBlank c

/-- The value of digits in a base. -/
def digitsValue (base : Nat) (ds : List Char) : Nat :=
  ds.foldl (fun n c =>
    let d := if isAsciiDigit c then c.toNat - '0'.toNat
      else if 'a' ≤ c && c ≤ 'f' then c.toNat - 'a'.toNat + 10
      else c.toNat - 'A'.toNat + 10
    n * base + d) 0

/-- The integer a text spells: blanks around, an optional sign, decimal digits with single
underscores between them. -/
def readInteger? (s : String) : Option Int :=
  let cs := Text.dropTrailingBlanks (Text.dropBlanks s.toList)
  let (negative, cs) := match cs with
    | '-' :: r => (true, r)
    | '+' :: r => (false, r)
    | r => (false, r)
  let rec go : List Char → Bool → Nat → Option Nat
    | [], afterDigit, n => if afterDigit then some n else none
    | '_' :: r, afterDigit, n => if afterDigit then go r false n else none
    | c :: r, _, n => (Text.decimalValue? c).bind fun d => go r true (n * 10 + d)
  match cs with
  | [] => none
  | '_' :: _ => none
  | _ => (go cs false 0).map fun n => if negative then -(n : Int) else n

/-- What an escape inside a set stands for. -/
inductive ClassAtom where
  | code (n : Nat)
  | category (c : Category) (negated : Bool)

/-- The code of a control escape. -/
def controlEscape? : Char → Option Nat
  | 'a' => some 7
  | 'b' => some 8
  | 'f' => some 12
  | 'n' => some 10
  | 'r' => some 13
  | 't' => some 9
  | 'v' => some 11
  | '\\' => some 92
  | _ => none

/-- The class an escape names. -/
def categoryEscape? : Char → Option (Category × Bool)
  | 'd' => some (.digit, false)
  | 'D' => some (.digit, true)
  | 's' => some (.space, false)
  | 'S' => some (.space, true)
  | 'w' => some (.word, false)
  | 'W' => some (.word, true)
  | _ => none

/-- The code of exactly `n` hexadecimal digits. -/
def hexEscape (n : Nat) : Reader Nat := do
  let ds ← takeWhile isHexDigit n
  if ds.length == n then return digitsValue 16 ds else fail

/-- The code of a long escape, which must name a code point. -/
def codePointEscape : Reader Nat := do
  let n ← hexEscape 8
  if n > 0x10FFFF then fail else return n

/-- The meaning of the escape of `c` inside a set. -/
def classEscape (c : Char) : Reader ClassAtom := do
  if let some n := controlEscape? c then return .code n
  if let some (k, negated) := categoryEscape? c then return .category k negated
  match c with
  | 'x' => return .code (← hexEscape 2)
  | 'u' => return .code (← hexEscape 4)
  | 'U' => return .code (← codePointEscape)
  | _ =>
    if isOctDigit c then
      let ds ← takeWhile isOctDigit 2
      let n := digitsValue 8 (c :: ds)
      if n > 0o377 then fail else return .code n
    else if isAsciiDigit c || isAsciiLetter c then fail
    else return .code c.toNat

/-- Whether group `gid` is closed. -/
def isClosed (st : ParseState) (gid : Nat) : Bool :=
  gid ≤ st.opened && (st.widths.lookup gid).isSome

/-- Inside a look-behind, a group referred to must be closed and opened before it. -/
def checkBehind (gid : Nat) : Reader Unit := do
  let st ← get
  match st.behindFrom with
  | none => return ()
  | some start => unless isClosed st gid && gid < start do fail

/-- A reference to the group numbered by `digits`. -/
def groupReference (digits : List Char) : Reader Node := do
  let gid := digitsValue 10 digits
  let st ← get
  if gid ≤ st.opened then
    unless isClosed st gid do fail
    checkBehind gid
    return .backref gid
  else fail

/-- The meaning of the escape of `c` outside a set. -/
def escapeNode (c : Char) : Reader Node := do
  match c with
  | 'A' => return .anchor .textStart
  | 'Z' => return .anchor .textEnd
  | 'b' => return .anchor .wordBoundary
  | 'B' => return .anchor .notWordBoundary
  | _ =>
  if let some (k, negated) := categoryEscape? c then return .set false [.category k negated]
  if let some n := controlEscape? c then return .char n
  match c with
  | 'x' => return .char (← hexEscape 2)
  | 'u' => return .char (← hexEscape 4)
  | 'U' => return .char (← codePointEscape)
  | '0' =>
    let ds ← takeWhile isOctDigit 2
    return .char (digitsValue 8 ('0' :: ds))
  | _ =>
    if isAsciiDigit c then
      match ← peek with
      | some (.plain d) =>
        if isAsciiDigit d then
          let _ ← next
          match ← peek with
          | some (.plain e) =>
            if isOctDigit c && isOctDigit d && isOctDigit e then
              let _ ← next
              let n := digitsValue 8 [c, d, e]
              if n > 0o377 then fail else return .char n
            else groupReference [c, d]
          | _ => groupReference [c, d]
        else groupReference [c]
      | _ => groupReference [c]
    else if isAsciiLetter c then fail
    else return .char c.toNat

/-- The set member a class atom stands for. -/
def ClassAtom.item : ClassAtom → SetItem
  | .code n => .char n
  | .category k negated => .category k negated

/-- The members of a set after its opening bracket (and caret), up to its closing bracket;
a closing bracket first in the set is a member. -/
def setItems : Nat → List SetItem → Reader (List SetItem)
  | 0, _ => fail
  | fuel + 1, acc => do
    let some t ← next | fail
    if t == .plain ']' && !acc.isEmpty then return acc.reverse
    let first ← match t with
      | .escaped c => classEscape c
      | .plain c => pure (ClassAtom.code c.toNat)
    if ← eat '-' then
      let some t₂ ← next | fail
      if t₂ == .plain ']' then return (SetItem.char '-'.toNat :: first.item :: acc).reverse
      let second ← match t₂ with
        | .escaped c => classEscape c
        | .plain c => pure (ClassAtom.code c.toNat)
      match first, second with
      | .code lo, .code hi => if hi < lo then fail else setItems fuel (.range lo hi :: acc)
      | _, _ => fail
    else setItems fuel (first.item :: acc)

/-- The flags of a flag group after its first letter `c`: none for flags set for the whole
pattern (the group ended at `)`), else what the group adds and removes before its `:`. -/
def flagGroup (fuel : Nat) (c : Char) : Reader (Option (Flags × Flags)) := do
  let rec adding : Nat → Flags → Char → Reader (Flags × Char)
    | 0, _, _ => fail
    | n + 1, add, c => do
      let some flag := Flags.ofLetter? c | fail
      if c == 'L' then fail
      let add := add.union flag
      if flag.hasType && (add.ascii && add.unicode) then fail
      let some (.plain d) ← next | fail
      if d == ')' || d == '-' || d == ':' then return (add, d)
      else adding n add d
  let rec removing : Nat → Flags → Char → Reader Flags
    | 0, _, _ => fail
    | n + 1, remove, c => do
      let some flag := Flags.ofLetter? c | fail
      if flag.hasType then fail
      let remove := remove.union flag
      let some (.plain d) ← next | fail
      if d == ':' then return remove
      else removing n remove d
  let (add, c) ← if c == '-' then pure (Flags.none, c) else adding fuel Flags.none c
  if c == ')' then
    modify fun s => { s with flags := s.flags.union add }
    return none
  if add.template then fail
  let remove ← if c == '-' then do
      let some (.plain d) ← next | fail
      removing fuel Flags.none d
    else pure Flags.none
  if remove.template then fail
  if !(add.inter remove).isNone then fail
  return some (add, remove)

/-- The repetition that a count character `c` starts, already consumed: none when a brace
does not open a count (it is then an ordinary character). -/
def repeatBounds (fuel : Nat) (c : Char) : Reader (Option (Nat × Option Nat)) := do
  match c with
  | '?' => return some (0, some 1)
  | '*' => return some (0, none)
  | '+' => return some (1, none)
  | _ =>
    if (← peek) == some (.plain '}') then return none
    let here := (← get).rest
    let lo ← takeWhile isAsciiDigit fuel
    let hi ← if ← eat ',' then takeWhile isAsciiDigit fuel else pure lo
    if !(← eat '}') then
      modify fun s => { s with rest := here }
      return none
    let min := if lo.isEmpty then 0 else digitsValue 10 lo
    if min ≥ repeatLimit then fail
    if hi.isEmpty then return some (min, none)
    let max := digitsValue 10 hi
    if max ≥ repeatLimit || max < min then fail
    return some (min, some max)

/-- The body a count repeats: a group that neither captures nor sets flags is its body. -/
def repeatedBody : Node → Node
  | .group none add remove body =>
    if add.isNone && remove.isNone then body else .group none add remove body
  | n => n

/-- The items with the last one repeated, if it can be: it must exist, match text, and not be
repeated already. -/
def applyRepeat (items : Array Node) (min : Nat) (max : Option Nat) (greed : Greed) :
    Option (Array Node) :=
  match items.back? with
  | none | some (.anchor _) | some (.loop ..) => none
  | some last => some (items.pop.push (.loop (repeatedBody last) min max greed))

/-- Whether two items are the same item, as alternatives that begin alike share their first
one: equal characters, sets, anchors or back references, or two dots. Groups, repetitions and
look-arounds are never the same. -/
def Node.sameItem : Node → Node → Bool
  | .char a, .char b => a == b
  | .set n₁ i₁, .set n₂ i₂ => n₁ == n₂ && i₁ == i₂
  | .any, .any => true
  | .anchor a, .anchor b => a == b
  | .backref a, .backref b => a == b
  | _, _ => false

/-- The set members an alternative of one item stands for, if it is a character or a set that
is not negated. -/
def Node.members? : Node → Option (List SetItem)
  | .char c => some [.char c]
  | .set false items => some items
  | _ => none

/-- The first items that all the alternatives share, and what is left of each; `fuel` bounds
the number of items shared. -/
def sharedItems (branches : List (List Node)) : Nat → List Node × List (List Node)
  | 0 => ([], branches)
  | fuel + 1 =>
    match branches with
    | (n :: _) :: _ =>
      let startsWith (b : List Node) : Bool := match b with
        | m :: _ => m.sameItem n
        | [] => false
      if branches.all startsWith then
        let (more, rest) := sharedItems (branches.map List.tail) fuel
        (n :: more, rest)
      else ([], branches)
    | _ => ([], branches)

/-- The node for two or more alternatives, each a list of items: the items they all begin with
are matched once before them, and when every alternative left is one character or one set
that is not negated, they become one set of all their members. -/
def Node.ofAlternatives (branches : List (List Node)) : Node :=
  let fuel := (branches.head?.map List.length).getD 0
  let (shared, rest) := sharedItems branches fuel
  let single (b : List Node) : Option (List SetItem) := match b with
    | [n] => n.members?
    | _ => none
  let choice := match rest.mapM single with
    | some members => Node.set false members.flatten.eraseDups
    | none => .alt (rest.map .seq)
  .seq (shared ++ [choice])

/-- A bracketed set: a set of one character, not negated, is that character. -/
def Node.ofSet (negated : Bool) (items : List SetItem) : Node :=
  match items.eraseDups, negated with
  | [.char c], false => .char c
  | items, _ => .set negated items

/-- What a group gives the sequence it is in. -/
inductive GroupResult where
  /-- An item. -/
  | item (n : Node)
  /-- Nothing: a comment. -/
  | nothing
  /-- Nothing: flags for the whole pattern, which may change the verbose flag. -/
  | global

mutual
/-- Alternatives up to a closing parenthesis or the end; `nested` is 0 at the top. -/
def alternation : Nat → Bool → Nat → Reader Node
  | 0, _, _ => fail
  | fuel + 1, verbose, nested => alternatives fuel verbose nested []

/-- The remaining alternatives, the items of those read so far in `acc` (last first). -/
def alternatives : Nat → Bool → Nat → List (List Node) → Reader Node
  | 0, _, _, _ => fail
  | fuel + 1, verbose, nested, acc => do
    let items ← sequence fuel verbose (nested + 1) (nested == 0 && acc.isEmpty) #[]
    if ← eat '|' then
      let globalVerbose := (← get).flags.verbose
      let verbose := if nested == 0 then globalVerbose else verbose
      alternatives fuel verbose nested (items.toList :: acc)
    else
      return match acc with
        | [] => .seq items.toList
        | _ => Node.ofAlternatives (items.toList :: acc).reverse

/-- Items up to `|`, a closing parenthesis or the end; `first` when global flags may still
come. -/
def sequence : Nat → Bool → Nat → Bool → Array Node → Reader (Array Node)
  | 0, _, _, _, _ => fail
  | fuel + 1, verbose, nested, first, items => do
    match ← peek with
    | none | some (.plain '|') | some (.plain ')') => return items
    | some (.escaped c) =>
      let _ ← next
      let n ← escapeNode c
      sequence fuel verbose nested first (items.push n)
    | some (.plain c) =>
      let _ ← next
      if verbose && isVerboseBlank c then sequence fuel verbose nested first items
      else if verbose && c == '#' then
        skipLine fuel
        sequence fuel verbose nested first items
      else match c with
      | '[' =>
        let negated ← eat '^'
        let set ← setItems fuel []
        sequence fuel verbose nested first (items.push (Node.ofSet negated set))
      | '*' | '+' | '?' | '{' =>
        match ← repeatBounds fuel c with
        | none => sequence fuel verbose nested first (items.push (.char c.toNat))
        | some (min, max) =>
          let greed ← do
            if ← eat '?' then pure Greed.lazy
            else if ← eat '+' then pure Greed.possessive
            else pure Greed.greedy
          let some items := applyRepeat items min max greed | fail
          sequence fuel verbose nested first items
      | '.' => sequence fuel verbose nested first (items.push .any)
      | '^' => sequence fuel verbose nested first (items.push (.anchor .lineStart))
      | '$' => sequence fuel verbose nested first (items.push (.anchor .lineEnd))
      | '(' =>
        match ← group fuel verbose nested (first && items.isEmpty) with
        | .item n => sequence fuel verbose nested first (items.push n)
        | .nothing => sequence fuel verbose nested first items
        | .global => sequence fuel (← get).flags.verbose nested first items
      | _ => sequence fuel verbose nested first (items.push (.char c.toNat))

/-- A group after its opening parenthesis. -/
def group : Nat → Bool → Nat → Bool → Reader GroupResult
  | 0, _, _, _ => fail
  | fuel + 1, verbose, nested, atStart => do
    if !(← eat '?') then
      return .item (← body fuel verbose nested true none Flags.none Flags.none false)
    let some t ← next | fail
    match t with
    | .escaped _ => fail
    | .plain 'P' =>
      if ← eat '<' then
        let name ← upTo '>' fuel []
        unless Text.isIdentifier name do fail
        return .item (← body fuel verbose nested true (some name) Flags.none Flags.none false)
      else if ← eat '=' then
        let name ← upTo ')' fuel []
        unless Text.isIdentifier name do fail
        let st ← get
        let some gid := st.names.lookup name | fail
        unless isClosed st gid do fail
        checkBehind gid
        return .item (.backref gid)
      else fail
    | .plain ':' =>
      return .item (← body fuel verbose nested false none Flags.none Flags.none false)
    | .plain '>' =>
      return .item (← body fuel verbose nested false none Flags.none Flags.none true)
    | .plain '#' =>
      skipPast ')' fuel
      return .nothing
    | .plain '=' | .plain '!' =>
      let inner ← alternation fuel verbose (nested + 1)
      expect ')'
      return .item (.look none (t == .plain '!') inner)
    | .plain '<' =>
      let some t₂ ← next | fail
      unless t₂ == .plain '=' || t₂ == .plain '!' do fail
      let saved := (← get).behindFrom
      if saved.isNone then modify fun s => { s with behindFrom := some (s.opened + 1) }
      let inner ← alternation fuel verbose (nested + 1)
      if saved.isNone then modify fun s => { s with behindFrom := none }
      expect ')'
      let st ← get
      let (lo, hi) := inner.width fun i => (st.widths.lookup i).getD (0, some 0)
      unless hi == some lo && lo ≤ lookBehindLimit do fail
      return .item (.look (some lo) (t₂ == .plain '!') inner)
    | .plain '(' =>
      let name ← upTo ')' fuel []
      let gid ← if Text.isIdentifier name then do
          let some gid := (← get).names.lookup name | fail
          pure gid
        else do
          let some n := readInteger? name | fail
          if n ≤ 0 then fail
          modify fun s => { s with condRefs := n.toNat :: s.condRefs }
          pure n.toNat
      checkBehind gid
      let yes ← sequence fuel verbose (nested + 1) false #[]
      let no ← if ← eat '|' then do
          let no ← sequence fuel verbose (nested + 1) false #[]
          if (← peek) == some (.plain '|') then fail
          pure no
        else pure #[]
      expect ')'
      return .item (.ifGroup gid (.seq yes.toList) (.seq no.toList))
    | .plain c =>
      if c == '-' || (Flags.ofLetter? c).isSome then
        match ← flagGroup fuel c with
        | none => if atStart then return .global else fail
        | some (add, remove) =>
          return .item (← body fuel verbose nested false none add remove false)
      else fail

/-- The body of a group and its closing parenthesis. -/
def body : Nat → Bool → Nat → Bool → Option String → Flags → Flags → Bool → Reader Node
  | 0, _, _, _, _, _, _, _ => fail
  | fuel + 1, verbose, nested, capture, name, add, remove, atomic => do
    let index ← if capture then do
        let st ← get
        let gid := st.opened + 1
        if let some n := name then
          if (st.names.lookup n).isSome then fail
          set { st with opened := gid, names := st.names ++ [(n, gid)] }
        else set { st with opened := gid }
        pure (some gid)
      else pure none
    let verbose := (verbose || add.verbose) && !remove.verbose
    let inner ← alternation fuel verbose (nested + 1)
    expect ')'
    if let some gid := index then
      let st ← get
      let w := inner.width fun i => (st.widths.lookup i).getD (0, some 0)
      set { st with widths := (gid, w) :: st.widths }
    return if atomic then .atomic inner else .group index add remove inner
end

/-- The pattern `source` compiled, or none when it is malformed. Besides what the grammar
checks, a closing parenthesis may not come unopened, a conditional may not name a group that
the pattern lacks, and the flags for the whole pattern may not ask both for ASCII and for
Unicode classes, nor for the locale's. -/
def Pattern.compile (source : String) : Option Pattern :=
  let cs := source.toList
  let start : ParseState := ⟨cs, 0, [], [], none, [], Flags.none⟩
  match (alternation (4 * (cs.length + 2)) false 0).run start with
  | none => none
  | some (root, st) =>
    if !st.rest.isEmpty then none
    else if st.flags.locale || (st.flags.ascii && st.flags.unicode) then none
    else if st.condRefs.any (· > st.opened) then none
    else some ⟨source, root, { st.flags with unicode := !st.flags.ascii }, st.opened⟩

end Ingest.Regex
