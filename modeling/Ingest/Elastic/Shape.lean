import Ingest.Document.Strict
import Ingest.Regex.Parse

/-!
# Shapes of processor options

An option of a processor in an ingest pipeline definition declares the shapes its value may
take. A value fits a shape strictly: a text only where a text is declared, a boolean only where
a boolean is declared, and an integer only where an integer is declared, though a text of
decimal digits with an optional minus sign also fits an integer and is read as one. An option
may declare several shapes; its value takes the first that fits.

`Shape.fit` gives the value as the option holds it: the value itself, or the integer a text of
digits reads as.
-/

namespace Ingest.Elastic

/-- A shape an option value may take. -/
inductive Shape where
  /-- Any text. -/
  | text
  /-- A text of exactly one character. -/
  | letter
  /-- A boolean. -/
  | flag
  /-- An integer at least `low` and below `high`. -/
  | count (low high : Int)
  /-- One of the given words. -/
  | word (choices : List String)
  /-- A text that compiles as a regular expression. -/
  | pattern
  /-- A list of texts. -/
  | texts
  /-- A dictionary of texts. -/
  | textMap
  /-- Any dictionary. -/
  | object
  /-- Any element. -/
  | value
  /-- Null. -/
  | nothing
deriving DecidableEq, Repr

/-- Whether an element is a text. -/
def isText : Element → Bool
  | .scalar (.str _) => true
  | _ => false

namespace Shape

/-- The value an element gives an option of this shape, if it fits. The check is strict: a flag
takes only a boolean and a count only an integer or a text of decimal digits, with no coercion
from other kinds of value. -/
def fit : Shape → Element → Option Element
  | .text, e@(.scalar (.str _)) => some e
  | .letter, e@(.scalar (.str s)) => if s.length == 1 then some e else none
  | .flag, e@(.scalar (.bool _)) => some e
  | .count low high, e =>
    match e.toInt? with
    | some n => if low ≤ n && n < high then some (.scalar (.int n)) else none
    | none => none
  | .word choices, e@(.scalar (.str s)) => if choices.contains s then some e else none
  | .pattern, e@(.scalar (.str s)) => (Regex.Pattern.compile s).map fun _ => e
  | .texts, e@(.list items) => if items.all isText then some e else none
  | .textMap, e@(.dict entries) => if entries.all (isText ·.2) then some e else none
  | .object, e@(.dict _) => some e
  | .value, e => some e
  | .nothing, e@(.scalar .null) => some e
  | _, _ => none

/-- The value an element gives an option that may take any of `shapes`: that of the first
shape it fits. -/
def fitFirst (shapes : List Shape) (e : Element) : Option Element :=
  shapes.findSome? (·.fit e)

end Shape

/-- An option of a processor: its key, the shapes its value may take, and its default, none
for a required option. -/
structure Declaration where
  key : String
  shapes : List Shape
  default : Option Element
deriving Repr

namespace Declaration

/-- A required option of one shape. -/
def required (key : String) (shape : Shape) : Declaration := ⟨key, [shape], none⟩

/-- An option of one shape with a default. -/
def optional (key : String) (shape : Shape) (default : Element) : Declaration :=
  ⟨key, [shape], some default⟩

/-- An optional text. -/
def text (key : String) (default : String) : Declaration :=
  optional key .text (.scalar (.str default))

/-- An optional boolean. -/
def flag (key : String) (default : Bool) : Declaration :=
  optional key .flag (.scalar (.bool default))

/-- A text or null, null by default. -/
def textOrNull (key : String) : Declaration := ⟨key, [.text, .nothing], some (.scalar .null)⟩

/-- A value of one shape or null, null by default. -/
def orNull (key : String) (shape : Shape) : Declaration :=
  ⟨key, [shape, .nothing], some (.scalar .null)⟩

/-- A list of texts with a default. -/
def texts (key : String) (default : List String) : Declaration :=
  optional key .texts (.list (default.map fun s => .scalar (.str s)))

/-- One of the given words, with a default. -/
def word (key : String) (choices : List String) (default : String) : Declaration :=
  optional key (.word choices) (.scalar (.str default))

end Declaration

end Ingest.Elastic
