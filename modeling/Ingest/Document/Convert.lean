import Ingest.Document.Display
import Ingest.Error

/-!
# Numbers from values

`Scalar.toInt` and `Scalar.toFloat` turn a value into an integer or a double the way the
processors that convert fields do: booleans count as 0 and 1, a double is cut toward zero, a
text is read as a literal, and an address gives its number (to an integer only). Everything
else, containers included, fails with an error that names its type.

A text that is no literal fails with its quoted form in the message; for an integer the
quoted form is cut to 200 characters.
-/

namespace Ingest

namespace Scalar

/-- The integer a scalar converts to. -/
def toInt : Scalar → Except Error Int
  | .bool b => .ok (if b then 1 else 0)
  | .int n => .ok n
  | .float x =>
    if x.isNaN then .error .nanToInt
    else
      match x.trunc? with
      | some n => .ok n
      | none => .error .infinityToInt
  | .str s =>
    match readInt s with
    | .ok n => .ok n
    | .error .invalid => .error (.notAnInt (String.ofList ((Text.quote s).toList.take 200)))
    | .error (.tooManyDigits limit count) => .error (.tooManyDigits limit count)
  | .ip a => .ok a.value
  | x => .error (.intArgument x.typeName)

/-- The double a scalar converts to; an integer is rounded to nearest. -/
def toFloat : Scalar → Except Error Binary64
  | .bool b => .ok (Binary64.ofInt (if b then 1 else 0))
  | .int n =>
    let x := Binary64.ofInt n
    if x.isInfinite then .error .intTooLarge else .ok x
  | .float x => .ok x
  | .str s =>
    match readFloat? s with
    | some x => .ok x
    | none => .error (.notAFloat (Text.quote s))
  | x => .error (.floatArgument x.typeName)

end Scalar

namespace Store

/-- The integer a node's value converts to. -/
def toInt (s : Store) (n : Node) : Except Error Int :=
  match s.scalarOf? n with
  | some x => x.toInt
  | none => .error (.intArgument (s.typeName n))

/-- The double a node's value converts to. -/
def toFloat (s : Store) (n : Node) : Except Error Binary64 :=
  match s.scalarOf? n with
  | some x => x.toFloat
  | none => .error (.floatArgument (s.typeName n))

end Store

end Ingest
