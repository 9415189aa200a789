import Ingest.Regex.Charset

/-!
# Regular expressions: matching

A backtracking matcher. The work still to do is a stack of frames: a node to match under the
flags in force, a group to close, a repetition to go on with, or a position the match may not
end at. `step` takes the top frame; at a choice it tries the first way with the rest of the
stack and, when that fails, the second, so the first match found is the one the order of
alternatives and the greed of repetitions prefer. Captures travel with the frames, so a way
that fails leaves no capture behind.

A repetition does not start another round at the position where its last round started: a
body that matched nothing once would match nothing forever. Look-arounds, atomic groups and
possessive rounds run their body on a stack of its own and keep only its first match.

`fuel` bounds the depth of the search, which makes `step` total; the matcher is given more
than any match of the pattern on the text needs.

`Pattern.spans` gives the matches across a text, left to right, as position pairs: after an
empty match the next one may start at the same position only if it is not empty.
-/

namespace Ingest.Regex

/-- The span each group captured, by group number (0 unused). -/
abbrev Captures := Array (Option (Nat × Nat))

/-- A piece of work left for the matcher. -/
inductive Frame where
  /-- Match a node under the given flags. -/
  | node (n : Node) (flags : Flags)
  /-- Record that group `index`, started at `start`, ends here. -/
  | close (index start : Nat)
  /-- A repetition after `count` rounds, the last one started at `lastStart`. -/
  | again (body : Node) (flags : Flags) (min : Nat) (max : Option Nat) (lazy : Bool)
      (count : Nat) (lastStart : Option Nat)
  /-- A possessive repetition after `count` rounds. -/
  | possess (body : Node) (flags : Flags) (min : Nat) (max : Option Nat) (count : Nat)
      (lastStart : Option Nat)
  /-- The match may not end at this position. -/
  | notAt (pos : Nat)

/-- Whether the character at `i` is a word character (none there is not). -/
def wordAt (f : Flags) (text : Array Char) (i : Nat) : Bool :=
  match text[i]? with
  | some c => Category.word.holds f.asciiOnly c
  | none => false

/-- Whether an anchor holds at `pos`. -/
def Anchor.holds (f : Flags) (text : Array Char) (pos : Nat) : Anchor → Bool
  | .lineStart => pos == 0 || (f.multiline && text[pos - 1]? == some '\n')
  | .lineEnd =>
    if f.multiline then pos == text.size || text[pos]? == some '\n'
    else pos == text.size || (pos + 1 == text.size && text[pos]? == some '\n')
  | .textStart => pos == 0
  | .textEnd => pos == text.size
  | .wordBoundary =>
    text.size != 0 && (pos > 0 && wordAt f text (pos - 1)) != wordAt f text pos
  | .notWordBoundary =>
    text.size != 0 && (pos > 0 && wordAt f text (pos - 1)) == wordAt f text pos

/-- Whether the `len` characters from `a` equal those from `b`, under the flags. -/
def sameRun (f : Flags) (text : Array Char) (a b : Nat) : Nat → Bool
  | 0 => true
  | len + 1 =>
    match text[a]?, text[b]? with
    | some x, some y => f.same x.toNat y.toNat && sameRun f text (a + 1) (b + 1) len
    | _, _ => false

/-- Whether the character at `pos` is one that a node of one character accepts. -/
def charHolds (f : Flags) (c : Char) : Node → Bool
  | .char n => literalHolds f n c.toNat
  | .any => f.dotAll || c != '\n'
  | .set negated items => setHolds f negated items c.toNat
  | _ => false

/-- The first way to do the work on the stack from `pos` with `caps`: where the match ends and
what it captured. -/
def step (text : Array Char) : Nat → Nat → Captures → List Frame → Option (Nat × Captures)
  | _, pos, caps, [] => some (pos, caps)
  | 0, _, _, _ :: _ => none
  | fuel + 1, pos, caps, frame :: k =>
    match frame with
    | .notAt p => if pos == p then none else step text fuel pos caps k
    | .close i start => step text fuel pos (caps.setIfInBounds i (some (start, pos))) k
    | .again body f min max lazy count last =>
      if count < min then
        step text fuel pos caps (.node body f :: .again body f min max lazy (count + 1) last :: k)
      else if max.all (count < ·) && last != some pos then
        let more := Frame.node body f :: .again body f min max lazy (count + 1) (some pos) :: k
        if lazy then (step text fuel pos caps k).orElse fun _ => step text fuel pos caps more
        else (step text fuel pos caps more).orElse fun _ => step text fuel pos caps k
      else step text fuel pos caps k
    | .possess body f min max count last =>
      if count < min then
        match step text fuel pos caps [.node body f] with
        | some (p, c) => step text fuel p c (.possess body f min max (count + 1) last :: k)
        | none => none
      else if max.all (count < ·) && last != some pos then
        match step text fuel pos caps [.node body f] with
        | some (p, c) => step text fuel p c (.possess body f min max (count + 1) (some pos) :: k)
        | none => step text fuel pos caps k
      else step text fuel pos caps k
    | .node n f =>
      match n with
      | .seq items => step text fuel pos caps (items.map (Frame.node · f) ++ k)
      | .alt [] => none
      | .alt (b :: bs) =>
        (step text fuel pos caps (.node b f :: k)).orElse fun _ =>
          step text fuel pos caps (.node (.alt bs) f :: k)
      | .char _ | .any | .set .. =>
        match text[pos]? with
        | some c => if charHolds f c n then step text fuel (pos + 1) caps k else none
        | none => none
      | .anchor a => if a.holds f text pos then step text fuel pos caps k else none
      | .group index add remove body =>
        let g := f.scope add remove
        match index with
        | some i => step text fuel pos caps (.node body g :: .close i pos :: k)
        | none => step text fuel pos caps (.node body g :: k)
      | .look behind negated body =>
        let found := match behind with
          | none => step text fuel pos caps [.node body f]
          | some w => if pos < w then none else step text fuel (pos - w) caps [.node body f]
        match found, negated with
        | some (_, c), false => step text fuel pos c k
        | none, true => step text fuel pos caps k
        | _, _ => none
      | .atomic body =>
        match step text fuel pos caps [.node body f] with
        | some (p, c) => step text fuel p c k
        | none => none
      | .loop body min max .greedy =>
        step text fuel pos caps (.again body f min max false 0 none :: k)
      | .loop body min max .lazy =>
        step text fuel pos caps (.again body f min max true 0 none :: k)
      | .loop body min max .possessive =>
        step text fuel pos caps (.possess body f min max 0 none :: k)
      | .backref i =>
        match caps[i]? with
        | some (some (s, e)) =>
          if sameRun f text s pos (e - s) then step text fuel (pos + (e - s)) caps k else none
        | _ => none
      | .ifGroup i yes no =>
        match caps[i]? with
        | some (some _) => step text fuel pos caps (.node yes f :: k)
        | _ => step text fuel pos caps (.node no f :: k)

namespace Pattern

/-- The depth of search the matcher is given on a text. -/
def fuelFor (r : Pattern) (text : Array Char) : Nat :=
  10000 + 64 * (text.size + 1) * (r.source.length + 1)

/-- Where a match starting at `start` ends, if one does; with `forbidEmpty`, an empty match
does not count. -/
def matchAt (r : Pattern) (text : Array Char) (start : Nat) (forbidEmpty : Bool) :
    Option (Nat × Captures) :=
  step text (r.fuelFor text) start (Array.replicate (r.groups + 1) none)
    (.node r.root r.flags :: if forbidEmpty then [.notAt start] else [])

/-- The first match at `start` or after it, as a span; with `forbidEmpty`, a match at `start`
may not be empty. `fuel` bounds the positions tried. -/
def searchFrom (r : Pattern) (text : Array Char) : Nat → Nat → Bool → Option (Nat × Nat)
  | 0, _, _ => none
  | fuel + 1, start, forbidEmpty =>
    match r.matchAt text start forbidEmpty with
    | some (stop, _) => some (start, stop)
    | none => if start < text.size then r.searchFrom text fuel (start + 1) false else none

/-- The matches from `pos` on; `forbidEmpty` after an empty match ending at `pos`. -/
def spansFrom (r : Pattern) (text : Array Char) : Nat → Nat → Bool → List (Nat × Nat)
  | 0, _, _ => []
  | fuel + 1, pos, forbidEmpty =>
    if pos > text.size then []
    else match r.searchFrom text (text.size + 1) pos forbidEmpty with
      | none => []
      | some (start, stop) => (start, stop) :: r.spansFrom text fuel stop (start == stop)

/-- The matches across a text, left to right. -/
def spans (r : Pattern) (text : Array Char) : List (Nat × Nat) :=
  r.spansFrom text (2 * text.size + 4) 0 false

/-- The characters from `a` to `b`. -/
def slice (text : Array Char) (a b : Nat) : String :=
  String.ofList (text.extract a b).toList

/-- The pieces of a text between the matches, the one before the first match and the one
after the last included. -/
def pieces (r : Pattern) (s : String) : List String :=
  let text := s.toList.toArray
  let (acc, last) := (r.spans text).foldl
    (fun (acc, last) (start, stop) => (slice text last start :: acc, stop)) ([], 0)
  (slice text last text.size :: acc).reverse

end Pattern

end Ingest.Regex
