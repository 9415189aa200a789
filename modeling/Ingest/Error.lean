import Ingest.Net.Address
import Ingest.Document.FieldPath

/-!
# Errors

Every way an operation of the library can fail, one constructor per cause. `Error.kind`
names the class of a failure (the names a caller matches on, such as `KeyError` or
`ValueError`), `Error.message` words it, and `Error.text` is how it reads inside another
message: the same words, except that a missing key is quoted.

Some failures carry no words: a failed validation of options, and a syntax error in JSON
text.
-/

namespace Ingest

/-- A failure, by cause. -/
inductive Error where
  /-- A walk through a path found nothing under the given prefix of the path. -/
  | missingKey (path : String)
  /-- A text that is not a field path. -/
  | invalidPath (raw : String)
  /-- Options or a value that do not fit the declared types and constraints. -/
  | invalid
  /-- Joining a path with something that is neither a path nor a text. -/
  | badJoin
  /-- The value to append to is not a list; its type is named. -/
  | notAList (typeName : String)
  /-- The value is not a text spelling a boolean; the value is shown. -/
  | notBoolean (shown : String)
  /-- A byte size without a known unit. -/
  | unknownUnit (text : String)
  /-- A text that is not a double; the text is shown quoted. -/
  | notAFloat (shown : String)
  /-- A text that is not an integer; the text is shown quoted. -/
  | notAnInt (shown : String)
  /-- An integer text with more digits than allowed. -/
  | tooManyDigits (limit count : Nat)
  /-- A value of the named type where a double is read. -/
  | floatArgument (typeName : String)
  /-- A value of the named type where an integer is read. -/
  | intArgument (typeName : String)
  /-- A NaN converted to an integer. -/
  | nanToInt
  /-- An infinity converted to an integer. -/
  | infinityToInt
  /-- An integer too large for a double. -/
  | intTooLarge
  /-- An integer outside the bounds of a processor; the bounds as configured. -/
  | outOfBounds (low high : Option Int)
  /-- A text or number that is not an IP address. -/
  | address (e : AddressError)
  /-- Two IP addresses of different versions ordered; both are shown. -/
  | mixedVersions (left right : String)
  /-- Two values that have no order; their type names. -/
  | unordered (left right : String)
  /-- A CSV input that is not a text; its type is named. -/
  | csvInput (typeName : String)
  /-- A CSV input without any record. -/
  | csvNoRecord
  /-- A malformed CSV input. -/
  | csv (message : String)
  /-- A JSON field that is not a text; its type and the path are named. -/
  | jsonInput (typeName : String) (path : String)
  /-- A JSON text with a syntax error. -/
  | jsonSyntax
  /-- JSON text whose value is not an object; the value is shown. -/
  | jsonNotObject (shown : String)
  /-- A field to remove that is not there. -/
  | nothingToRemove (path : String)
  /-- An operation without an implementation. -/
  | notImplemented
  /-- The document is to be dropped. -/
  | drop
  /-- A processor of a pipeline failed with `cause`; the processor's kind and tag. -/
  | pipelineFailure (cause : Error) (processor : String) (tag : Option String)
  /-- A text that is not an ISO 8601 date and time; the text is shown quoted. -/
  | isoFormat (shown : String)
  /-- A date or time field outside its range, as worded (`month must be in 1..12`). -/
  | fieldRange (message : String)
  /-- A year outside 1 to 9999. -/
  | yearRange (year : Int)
  /-- A date and time moved outside the representable range. -/
  | dateOverflow
  /-- A day count too large for a machine integer. -/
  | dayCountOverflow
  /-- A day count beyond 999999999 days. -/
  | dayRange (days : Int)
  /-- A timestamp too large for the platform clock. -/
  | timestampRange
  /-- A timestamp whose year the platform clock cannot compute. -/
  | clockRange
  /-- A NaN timestamp. -/
  | nanTimestamp
  /-- No formatter of a fallback chain could read the value. -/
  | noFormatter
  /-- A value of the wrong type for a date-time formatter. -/
  | formatterInput
  /-- A text that is not a TAI64N label. -/
  | tai64Label
  /-- A formatter with a pattern language that is not implemented. -/
  | patternFormatter
  /-- A fixed offset of a day or more; the offset shown as a time span. -/
  | offsetRange (shown : String)
  /-- A condition built with a positional argument. -/
  | conditionArgument
  /-- A conversion that reads an option its model does not have. -/
  | missingOption (model option : String)
deriving Repr, Inhabited

namespace Error

/-- The class of a failure. -/
def kind : Error → String
  | .missingKey _ => "KeyError"
  | .invalidPath _ => "ValueError"
  | .invalid => "ValidationError"
  | .badJoin => "TypeError"
  | .notAList _ => "ValueError"
  | .notBoolean _ => "ValueError"
  | .unknownUnit _ => "ValueError"
  | .notAFloat _ => "ValueError"
  | .notAnInt _ => "ValueError"
  | .tooManyDigits _ _ => "ValueError"
  | .floatArgument _ => "TypeError"
  | .intArgument _ => "TypeError"
  | .nanToInt => "ValueError"
  | .infinityToInt => "OverflowError"
  | .intTooLarge => "OverflowError"
  | .outOfBounds _ _ => "ValueError"
  | .address _ => "AddressValueError"
  | .mixedVersions _ _ => "TypeError"
  | .unordered _ _ => "TypeError"
  | .csvInput _ => "TypeError"
  | .csvNoRecord => "RuntimeError"
  | .csv _ => "Error"
  | .jsonInput _ _ => "TypeError"
  | .jsonSyntax => "ValueError"
  | .jsonNotObject _ => "ValueError"
  | .nothingToRemove _ => "ValueError"
  | .notImplemented => "NotImplementedError"
  | .drop => "DropException"
  | .pipelineFailure _ _ _ => "PipelineFailureException"
  | .isoFormat _ => "ValueError"
  | .fieldRange _ => "ValueError"
  | .yearRange _ => "ValueError"
  | .dateOverflow => "OverflowError"
  | .dayCountOverflow => "OverflowError"
  | .dayRange _ => "OverflowError"
  | .timestampRange => "OverflowError"
  | .clockRange => "OSError"
  | .nanTimestamp => "ValueError"
  | .noFormatter => "ValueError"
  | .formatterInput => "TypeError"
  | .tai64Label => "ValueError"
  | .patternFormatter => "TypeError"
  | .offsetRange _ => "ValueError"
  | .conditionArgument => "TypeError"
  | .missingOption _ _ => "AttributeError"

/-- The words of an integer bound check: a missing lower bound and a missing upper bound are
each reported by naming the missing one. -/
def boundsMessage (low high : Option Int) : String :=
  match low, high with
  | none, _ => "Value must be less than or equal to None"
  | _, none => "Value must be greater than or equal to None"
  | some l, some h =>
    "Value must be between " ++ toString l ++ " and " ++ toString h ++ " included."

mutual
/-- The words of a failure, if it has any. A missing key is worded as the path prefix. -/
def message : Error → Option String
  | .missingKey p => some p
  | .pipelineFailure cause _ _ => (text cause).map ("Pipeline has failed: " ++ ·)
  | e => text e

/-- The failure as it reads inside another message: a missing key is quoted. -/
def text : Error → Option String
  | .missingKey p => some (Text.quote p)
  | .invalidPath raw => some ("Invalid field path: " ++ raw)
  | .invalid => none
  | .badJoin => some ""
  | .notAList t => some ("Targeted field was of type <class '" ++ t ++ "'>, not a list")
  | .notBoolean v => some ("Could not convert to boolean: " ++ v)
  | .unknownUnit t => some ("Missing or unrecognized unit: " ++ t)
  | .notAFloat v => some ("could not convert string to float: " ++ v)
  | .notAnInt v => some ("invalid literal for int() with base 10: " ++ v)
  | .tooManyDigits limit count =>
    some ("Exceeds the limit (" ++ toString limit ++ " digits) for integer string conversion: " ++
      "value has " ++ toString count ++
      " digits; use sys.set_int_max_str_digits() to increase the limit")
  | .floatArgument t =>
    some ("float() argument must be a string or a real number, not '" ++ t ++ "'")
  | .intArgument t =>
    some ("int() argument must be a string, a bytes-like object or a real number, not '" ++
      t ++ "'")
  | .nanToInt => some "cannot convert float NaN to integer"
  | .infinityToInt => some "cannot convert float infinity to integer"
  | .intTooLarge => some "int too large to convert to float"
  | .outOfBounds l h => some (boundsMessage l h)
  | .address e => some e.message
  | .mixedVersions a b => some (a ++ " and " ++ b ++ " are not of the same version")
  | .unordered a b =>
    some ("'<' not supported between instances of '" ++ a ++ "' and '" ++ b ++ "'")
  | .csvInput t => some ("initial_value must be str or None, not " ++ t)
  | .csvNoRecord => some "coroutine raised StopIteration"
  | .csv m => some m
  | .jsonInput t p => some ("Invalid type <class '" ++ t ++ "'> for field " ++ p)
  | .jsonSyntax => none
  | .jsonNotObject v => some ("Parsed field was not an array: " ++ v)
  | .nothingToRemove p => some ("No field to delete at " ++ p)
  | .notImplemented => some ""
  | .drop => some "Document should be dropped"
  | .pipelineFailure cause _ _ => (text cause).map ("Pipeline has failed: " ++ ·)
  | .isoFormat v => some ("Invalid isoformat string: " ++ v)
  | .fieldRange m => some m
  | .yearRange y => some ("year " ++ toString y ++ " is out of range")
  | .dateOverflow => some "date value out of range"
  | .dayCountOverflow => some "Python int too large to convert to C int"
  | .dayRange d => some ("days=" ++ toString d ++ "; must have magnitude <= 999999999")
  | .timestampRange => some "timestamp out of range for platform time_t"
  | .clockRange => some "[Errno 75] Value too large for defined data type"
  | .nanTimestamp => some "Invalid value NaN (not a number)"
  | .noFormatter => some "None of the formatters have successfully extracted the date and time."
  | .formatterInput => some ""
  | .tai64Label => some ""
  | .patternFormatter =>
    some ("Can't instantiate abstract class JavaDateTimeFormatter with abstract methods " ++
      "format, parse")
  | .offsetRange shown =>
    some ("offset must be a timedelta strictly between -timedelta(hours=24) and " ++
      "timedelta(hours=24), not " ++ shown ++ ".")
  | .conditionArgument => some "BaseModel.__init__() takes 1 positional argument but 2 were given"
  | .missingOption model option =>
    some ("'" ++ model ++ "' object has no attribute '" ++ option ++ "'")
end

end Error

/-- The failure of building a path: a malformed text is named, every other fault is a failed
validation. -/
def PathError.toError : PathError → Error
  | .malformed raw => .invalidPath raw
  | _ => .invalid

end Ingest
