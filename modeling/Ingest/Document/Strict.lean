import Ingest.Document.Access
import Ingest.Number.Notation
import Ingest.Error

/-!
# Strict readings of values

Where a value of a given kind is required, only that kind is taken, with one exception: an
integer may also be written as a text of an optional minus sign and ASCII digits. A boolean is
not an integer, and a number is not a text.

`Element.read` reads a path the way a caller that may name a default and a required class of
value does: a walk that stops gives the default, if there is one, and fails with the prefix of
the path it reached otherwise; a value found is checked against the class.
-/

namespace Ingest

/-- Whether `s` is an optional minus sign followed by ASCII decimal digits. -/
def isIntegerText (s : String) : Bool :=
  match s.toList with
  | '-' :: ds => !ds.isEmpty && ds.all isAsciiDigit
  | ds => !ds.isEmpty && ds.all isAsciiDigit

namespace Element

/-- The integer a value stands for: an integer, or an integer text within the digit limit. -/
def toInt? : Element → Option Int
  | .scalar (.int n) => some n
  | .scalar (.str s) =>
    if isIntegerText s then
      match readInt s with
      | .ok n => some n
      | .error _ => none
    else none
  | _ => none

/-- The text a value holds, if it is a text. -/
def toText? : Element → Option String
  | .scalar (.str s) => some s
  | _ => none

/-- The boolean a value holds, if it is a boolean. -/
def toBool? : Element → Option Bool
  | .scalar (.bool b) => some b
  | _ => none

end Element

/-- A class of value a read may require. -/
inductive ValueClass where
  | int
  | text
deriving DecidableEq, Repr

/-- The value as the class takes it: an integer (an integer text is read as one), or a text. -/
def ValueClass.cast : ValueClass → Element → Option Element
  | .int, e => e.toInt?.map fun n => .scalar (.int n)
  | .text, e => e.toText?.map fun t => .scalar (.str t)

/-- The failure of a walk through `p` that stopped where `m` says: the key missing is the prefix
of the path walked. -/
def FieldPath.missing (p : FieldPath) (m : PathMiss) : Error := .missingKey (p.prefixText m.depth)

/-- The value at `p` in `e`: `default` when the walk stops and one is given (it is not checked),
the missing key otherwise; a value found must fit `cls`, if given. -/
def Element.read (p : FieldPath) (e : Element) (default : Option Element)
    (cls : Option ValueClass) : Except Error Element :=
  match e.get p, default with
  | .error _, some d => .ok d
  | .error m, none => .error (p.missing m)
  | .ok v, _ =>
    match cls with
    | none => .ok v
    | some c => match c.cast v with
      | some w => .ok w
      | none => .error .invalid

end Ingest
