import Ingest.Document.Element
import Ingest.Number.Notation

/-!
# Documents as JSON text

`Element.readJson?` reads JSON text: white space is space, tab, line feed and carriage
return; a number with a fraction or an exponent is a double (rounded once from its exact
decimal value), any other number an integer of any size; `NaN`, `Infinity` and `-Infinity`
are read as the doubles; control characters must be escaped inside strings; a key given twice
keeps its first place and its last value. A high surrogate escape followed by a low one
stands for one character; a surrogate escape on its own becomes U+FFFD, the text type having
no surrogates.

`Element.toJson` writes JSON text in ASCII: `, ` and `: ` as separators, every character
outside space to tilde escaped (`\n`, `é`, surrogate pairs above the first plane),
doubles with their shortest digits. IP addresses are written as their text.
-/

namespace Ingest

namespace Json

/-- JSON white space. -/
def isSpace (c : Char) : Bool := c == ' ' || c == '\t' || c == '\n' || c == '\r'

/-- The characters after the leading white space. -/
def skipSpace (cs : List Char) : List Char := cs.dropWhile isSpace

/-- The value of a hexadecimal digit. -/
def hexDigit? (c : Char) : Option Nat :=
  if '0' ≤ c && c ≤ '9' then some (c.toNat - '0'.toNat)
  else if 'a' ≤ c && c ≤ 'f' then some (c.toNat - 'a'.toNat + 10)
  else if 'A' ≤ c && c ≤ 'F' then some (c.toNat - 'A'.toNat + 10)
  else none

/-- Four hexadecimal digits and the characters after them. -/
def hex4 : List Char → Option (Nat × List Char)
  | a :: b :: c :: d :: rest => do
    let a ← hexDigit? a
    let b ← hexDigit? b
    let c ← hexDigit? c
    let d ← hexDigit? d
    pure (((a * 16 + b) * 16 + c) * 16 + d, rest)
  | _ => none

/-- The character of a code point, U+FFFD for a surrogate. -/
def charOf (n : Nat) : Char := if 0xD800 ≤ n && n ≤ 0xDFFF then '�' else Char.ofNat n

/-- The body of a string up to its closing quote (the opening one already read), onto `acc`
(reversed), and the characters after it; `fuel` bounds the number of characters read. -/
def readStringFrom : Nat → List Char → List Char → Option (String × List Char)
  | 0, _, _ => none
  | _ + 1, [], _ => none
  | _ + 1, '"' :: rest, acc => some (String.ofList acc.reverse, rest)
  | fuel + 1, '\\' :: e :: rest, acc =>
    match e with
    | '"' => readStringFrom fuel rest ('"' :: acc)
    | '\\' => readStringFrom fuel rest ('\\' :: acc)
    | '/' => readStringFrom fuel rest ('/' :: acc)
    | 'b' => readStringFrom fuel rest ('\x08' :: acc)
    | 'f' => readStringFrom fuel rest ('\x0c' :: acc)
    | 'n' => readStringFrom fuel rest ('\n' :: acc)
    | 'r' => readStringFrom fuel rest ('\r' :: acc)
    | 't' => readStringFrom fuel rest ('\t' :: acc)
    | 'u' =>
      match hex4 rest with
      | some (hi, rest') =>
        if 0xD800 ≤ hi && hi ≤ 0xDBFF then
          match rest' with
          | '\\' :: 'u' :: more =>
            match hex4 more with
            | some (lo, rest'') =>
              if 0xDC00 ≤ lo && lo ≤ 0xDFFF then
                readStringFrom fuel rest''
                  (Char.ofNat (0x10000 + (hi - 0xD800) * 0x400 + (lo - 0xDC00)) :: acc)
              else readStringFrom fuel rest' (charOf hi :: acc)
            | none => none
          | _ => readStringFrom fuel rest' (charOf hi :: acc)
        else readStringFrom fuel rest' (charOf hi :: acc)
      | none => none
    | _ => none
  | fuel + 1, c :: rest, acc =>
    if c.toNat < 0x20 then none else readStringFrom fuel rest (c :: acc)

/-- The body of a string up to its closing quote (the opening one already read), and the
characters after it. -/
def readString (cs : List Char) : Option (String × List Char) :=
  readStringFrom (cs.length + 1) cs []

/-- Whether `c` is an ASCII digit. -/
def isDigit (c : Char) : Bool := '0' ≤ c && c ≤ '9'

/-- A number: `-?(0|[1-9][0-9]*)(\.[0-9]+)?([eE][-+]?[0-9]+)?`, an integer unless it has a
fraction or an exponent. -/
def readNumber (cs : List Char) : Option (Element × List Char) :=
  let (neg, r) := match cs with
    | '-' :: r => (true, r)
    | r => (false, r)
  let (intDigits, r) := match r with
    | '0' :: r' => (['0'], r')
    | r' => (r'.takeWhile isDigit, r'.dropWhile isDigit)
  if intDigits.isEmpty then none
  else
    let (frac, r) := match r with
      | '.' :: d :: r' => if isDigit d then (some (d :: r'.takeWhile isDigit), r'.dropWhile isDigit)
                          else (none, r)
      | _ => (none, r)
    let (exp, r) := match r with
      | e :: r' =>
        if e == 'e' || e == 'E' then
          let (eneg, r'') := match r' with
            | '-' :: x => (true, x)
            | '+' :: x => (false, x)
            | x => (false, x)
          let ds := r''.takeWhile isDigit
          if ds.isEmpty then (none, r)
          else
            let e : Int := if eneg then -(digitsValue ds : Int) else digitsValue ds
            (some e, r''.dropWhile isDigit)
        else (none, r)
      | [] => (none, r)
    match frac, exp with
    | none, none =>
      if intDigits.length > maxIntDigits then none
      else
        let n : Int := digitsValue intDigits
        some (.scalar (.int (if neg then -n else n)), r)
    | _, _ =>
      let fracDigits := frac.getD []
      let x := exp.getD 0 - fracDigits.length
      some (.scalar (.float (Binary64.ofDecimal neg (digitsValue (intDigits ++ fracDigits)) x)), r)

/-- Whether `cs` begins with the characters of `w`, and what follows them. -/
def afterWord (w : String) (cs : List Char) : Option (List Char) :=
  if w.toList.isPrefixOf cs then some (cs.drop w.length) else none

mutual
/-- One value after optional white space; `fuel` bounds the nesting and the number of
items. -/
def readValue : Nat → List Char → Option (Element × List Char)
  | 0, _ => none
  | fuel + 1, cs =>
    match skipSpace cs with
    | '{' :: r => readEntries fuel (skipSpace r) [] true
    | '[' :: r => readItems fuel (skipSpace r) [] true
    | '"' :: r => (readString r).map fun (s, r') => (.scalar (.str s), r')
    | cs' =>
      match afterWord "null" cs' with
      | some r => some (.scalar .null, r)
      | none => match afterWord "true" cs' with
        | some r => some (.scalar (.bool true), r)
        | none => match afterWord "false" cs' with
          | some r => some (.scalar (.bool false), r)
          | none => match afterWord "NaN" cs' with
            | some r => some (.scalar (.float Binary64.nan), r)
            | none => match afterWord "Infinity" cs' with
              | some r => some (.scalar (.float (Binary64.infinity false)), r)
              | none => match afterWord "-Infinity" cs' with
                | some r => some (.scalar (.float (Binary64.infinity true)), r)
                | none => readNumber cs'

/-- The items of a list after `[` (white space skipped), onto `acc` (reversed); `first` when
no item has been read. -/
def readItems : Nat → List Char → List Element → Bool → Option (Element × List Char)
  | 0, _, _, _ => none
  | fuel + 1, cs, acc, first =>
    match cs with
    | ']' :: r => if first then some (.list [], r) else none
    | _ =>
      match readValue fuel cs with
      | none => none
      | some (v, r) =>
        match skipSpace r with
        | ',' :: r' => readItems fuel (skipSpace r') (v :: acc) false
        | ']' :: r' => some (.list (v :: acc).reverse, r')
        | _ => none

/-- The entries of a dictionary after `{` (white space skipped), onto `acc`; `first` when no
entry has been read. -/
def readEntries : Nat → List Char → Entries Element → Bool → Option (Element × List Char)
  | 0, _, _, _ => none
  | fuel + 1, cs, acc, first =>
    match cs with
    | '}' :: r => if first then some (.dict [], r) else none
    | '"' :: r =>
      match readString r with
      | none => none
      | some (k, r) =>
        match skipSpace r with
        | ':' :: r' =>
          match readValue fuel r' with
          | none => none
          | some (v, r'') =>
            let acc := Entries.insert k v acc
            match skipSpace r'' with
            | ',' :: more => readEntries fuel (skipSpace more) acc false
            | '}' :: more => some (.dict acc, more)
            | _ => none
        | _ => none
    | _ => none
end

end Json

/-- The element written as the JSON text `s`, if `s` is one value with white space around. -/
def Element.readJson? (s : String) : Option Element :=
  let cs := s.toList
  if cs.head? == some '﻿' then none
  else
    match Json.readValue (cs.length + 1) cs with
    | some (v, rest) => if (Json.skipSpace rest).isEmpty then some v else none
    | none => none

namespace Json

/-- Four lowercase hexadecimal digits of `n`. -/
def hex4Text (n : Nat) : String := String.ofList (Text.hexDigits n 4)

/-- One character of a JSON string in ASCII. -/
def escapeChar (c : Char) : String :=
  if c == '"' then "\\\""
  else if c == '\\' then "\\\\"
  else if c == '\n' then "\\n"
  else if c == '\r' then "\\r"
  else if c == '\t' then "\\t"
  else if c == '\x08' then "\\b"
  else if c == '\x0c' then "\\f"
  else if ' ' ≤ c && c ≤ '~' then String.singleton c
  else if c.toNat < 0x10000 then "\\u" ++ hex4Text c.toNat
  else
    let n := c.toNat - 0x10000
    "\\u" ++ hex4Text (0xD800 + n / 0x400) ++ "\\u" ++ hex4Text (0xDC00 + n % 0x400)

/-- A JSON string literal in ASCII. -/
def quote (s : String) : String := "\"" ++ String.join (s.toList.map escapeChar) ++ "\""

/-- The JSON text of a scalar. -/
def scalarText : Scalar → String
  | .null => "null"
  | .bool b => if b then "true" else "false"
  | .int n => toString n
  | .float x =>
    if x.isNaN then "NaN"
    else if x.isInfinite then (if x.sign then "-Infinity" else "Infinity")
    else x.toText
  | .str s => quote s
  | .ip a => quote a.toText

end Json

mutual
/-- The JSON text of an element. -/
def Element.toJson : Element → String
  | .scalar s => Json.scalarText s
  | .list items => "[" ++ Element.itemsJson items ++ "]"
  | .dict entries => "\x7b" ++ Element.entriesJson entries ++ "\x7d"

/-- The JSON texts of list items, separated by commas. -/
def Element.itemsJson : List Element → String
  | [] => ""
  | [x] => x.toJson
  | x :: xs => x.toJson ++ ", " ++ Element.itemsJson xs

/-- The JSON texts of dictionary entries, separated by commas. -/
def Element.entriesJson : List (String × Element) → String
  | [] => ""
  | [(k, v)] => Json.quote k ++ ": " ++ v.toJson
  | (k, v) :: rest => Json.quote k ++ ": " ++ v.toJson ++ ", " ++ Element.entriesJson rest
end

end Ingest
