/-!
# Positions in a text

A `Position` counts lines, columns and characters while a text is read chunk by chunk. Reading
a chunk moves the offset by its length; a chunk without a line break moves the column by its
length, and a chunk with one moves the line by the number of breaks and puts the column after
the characters that follow the last break.

`DecodeFailure` is the report of a text that could not be read, placed at a position.
-/

namespace Ingest

/-- Where a reader stands: line and column count from one, the offset from zero. -/
structure Position where
  line : Int
  column : Int
  offset : Int
deriving DecidableEq, Repr

namespace Position

/-- The position before any text. -/
def start : Position := ⟨1, 1, 0⟩

/-- The position after reading `s` from `p`. -/
def advance (p : Position) (s : String) : Position :=
  let cs := s.toList
  let breaks := cs.count '\n'
  let offset := p.offset + cs.length
  if breaks = 0 then { p with column := p.column + cs.length, offset }
  else ⟨p.line + breaks, (cs.reverse.takeWhile (· ≠ '\n')).length + 1, offset⟩

end Position

/-- A text that could not be read, with where it went wrong. -/
structure DecodeFailure where
  /-- What went wrong; none, or an empty text, for the general wording. -/
  reason : Option String
  line : Int
  column : Int
  offset : Int

namespace DecodeFailure

/-- The wording used when no reason is given. -/
def generalReason : String := "A decoding error has occurred."

/-- The report: the position, then the reason with its first character in lower case. -/
def message (f : DecodeFailure) (lowerFirst : String → String) : String :=
  let reason := match f.reason with
    | some r => if r.isEmpty then generalReason else r
    | none => generalReason
  let body := match reason.toList with
    | c :: rest => lowerFirst (String.singleton c) ++ String.ofList rest
    | [] => ""
  "At line " ++ toString f.line ++ ", column " ++ toString f.column ++ ": " ++ body

end DecodeFailure

end Ingest
