import Ingest.Text.Printable

/-!
# Field paths

A field path names a place in a nested document: a non-empty list of parts, each a non-empty
text without a dot. Its text form joins the parts with dots, so `a.b.0` has the parts `a`, `b`
and `0`; a part addresses a dictionary entry by key, or a list element by a decimal index.

Reading a text accepts exactly the texts of the grammar `[^.]+(\.[^.]+)*`: `parse` splits on
dots and refuses an empty part, and the empty text is refused on its own. `render` joins the
parts again, so reading and writing are inverse.

`p.isPrefixOf q` is the containment of paths: `q` lies under `p` (or is `p`).
-/

namespace Ingest

/-- Whether `s` may be a part of a path: non-empty and without a dot. -/
def isPathPart (s : String) : Bool := !s.isEmpty && !s.contains '.'

/-- A path through a document: a non-empty list of dot-free, non-empty parts. -/
structure FieldPath where
  parts : List String
  nonempty : parts ≠ []
  wellFormed : parts.all isPathPart = true

/-- Why a text or a list of parts is not a field path. -/
inductive PathError where
  /-- The empty text, or the empty list of parts. -/
  | empty
  /-- A text with an empty part (a leading, trailing or doubled dot). -/
  | malformed (raw : String)
  /-- A part that is empty or holds a dot. -/
  | badPart (part : String)
  /-- A value that is neither a text nor a list of texts. -/
  | notText
deriving DecidableEq, Repr

namespace FieldPath

instance : DecidableEq FieldPath := fun p q =>
  if h : p.parts = q.parts then
    isTrue (by cases p; cases q; cases h; rfl)
  else isFalse (fun e => h (by rw [e]))

/-- The path with the given parts, if they are non-empty and well formed. -/
def ofParts (parts : List String) : Except PathError FieldPath :=
  if h : parts = [] then .error .empty
  else if w : parts.all isPathPart = true then .ok ⟨parts, h, w⟩
  else .error (.badPart ((parts.find? (fun p => !isPathPart p)).getD ""))

/-- The path written as `s`: its dot-separated parts, none of them empty. -/
def parse (s : String) : Except PathError FieldPath :=
  if s.isEmpty then .error .empty
  else
    let parts := s.splitOn "."
    if parts.any String.isEmpty then .error (.malformed s)
    else ofParts parts

/-- The text of a path: its parts joined with dots. -/
def render (p : FieldPath) : String := ".".intercalate p.parts

/-- The text of the first `depth` parts of `p`. -/
def prefixText (p : FieldPath) (depth : Nat) : String := ".".intercalate (p.parts.take depth)

/-- How a path is shown in messages: `FieldPath('a.b')`. -/
def describe (p : FieldPath) : String := "FieldPath(" ++ Text.quote p.render ++ ")"

instance : Repr FieldPath := ⟨fun p _ => .text p.describe⟩

/-- The path without its last part; a one-part path is its own parent. -/
def parent (p : FieldPath) : FieldPath :=
  match ofParts p.parts.dropLast with
  | .ok q => q
  | .error _ => p

/-- The path `p` followed by the parts of `q`. -/
def join (p q : FieldPath) : FieldPath :=
  ⟨p.parts ++ q.parts, by simp [p.nonempty], by simp [p.wellFormed, q.wellFormed]⟩

/-- The path `p` followed by the parts written as `s`; the empty text adds no part. -/
def joinText (p : FieldPath) (s : String) : Except PathError FieldPath :=
  if s.isEmpty then .ok p
  else
    match parse s with
    | .ok q => .ok (p.join q)
    | .error .empty => .ok p
    | .error _ => .error (.malformed s)

/-- Whether `q` lies under `p`: the parts of `p` begin the parts of `q`. -/
def isPrefixOf (p q : FieldPath) : Bool := p.parts.isPrefixOf q.parts

/-- The number of parts. -/
def length (p : FieldPath) : Nat := p.parts.length

/-- The last part. -/
def last (p : FieldPath) : String := p.parts.getLastD ""

end FieldPath

end Ingest
