import Ingest.Text.Printable

/-!
# IP addresses

IPv4 addresses in dotted decimal (`192.0.2.1`: four octets, no leading zeros) and IPv6
addresses in colon hexadecimal (`2001:db8::1`: eight hextets, one `::` standing for a run of
zero hextets, a dotted IPv4 tail allowed, a `%zone` suffix kept as the scope). Each rejection
has its own cause; `AddressError.message` words it, quoting the offending text.

Written IPv6 addresses are compressed: hextets in lowercase without leading zeros, and the
first longest run of two or more zero hextets replaced by `::`.
-/

namespace Ingest

/-- An IP address: a 32-bit IPv4 address, or a 128-bit IPv6 address with an optional scope
(zone) name. -/
inductive IpAddress where
  | v4 (value : Nat)
  | v6 (value : Nat) (scope : Option String)
deriving DecidableEq, Repr

/-- Why a dotted octet is rejected. -/
inductive OctetProblem where
  | empty
  | notDecimal (octet : String)
  | tooLong (octet : String)
  | leadingZero (octet : String)
  | tooLarge (value : Nat)
deriving DecidableEq, Repr

/-- Why a hextet is rejected. -/
inductive HextetProblem where
  | notHex (hextet : String)
  | tooLong (hextet : String)
deriving DecidableEq, Repr

/-- Why a text or an integer is not an IP address. -/
inductive AddressError where
  | empty
  /-- A `/` in the text; the argument is the shown (quoted) input. -/
  | slash (shown : String)
  | octetCount (text : String)
  | octet (problem : OctetProblem) (text : String)
  | negative (value : Int) (version : Nat)
  | tooLarge (value : Int) (bits version : Nat)
  | partCount (text : String)
  | colonCount (text : String)
  | doubleColons (text : String)
  | leadingColon (text : String)
  | trailingColon (text : String)
  | crowdedSkip (text : String)
  | partCountNoSkip (text : String)
  | hextet (problem : HextetProblem) (text : String)
  /-- An IPv4 tail of an IPv6 text was rejected. -/
  | tail (inner : AddressError) (text : String)
  | badScope (text : String)
deriving Repr

/-- The wording of an octet problem. -/
def OctetProblem.message : OctetProblem → String
  | .empty => "Empty octet not permitted"
  | .notDecimal o => "Only decimal digits permitted in " ++ Text.quote o
  | .tooLong o => "At most 3 characters permitted in " ++ Text.quote o
  | .leadingZero o => "Leading zeros are not permitted in " ++ Text.quote o
  | .tooLarge n => "Octet " ++ toString n ++ " (> 255) not permitted"

/-- The wording of a hextet problem. -/
def HextetProblem.message : HextetProblem → String
  | .notHex h => "Only hex digits permitted in " ++ Text.quote h
  | .tooLong h => "At most 4 characters permitted in " ++ Text.quote h

/-- The wording of an address error. -/
def AddressError.message : AddressError → String
  | .empty => "Address cannot be empty"
  | .slash shown => "Unexpected '/' in " ++ shown
  | .octetCount t => "Expected 4 octets in " ++ Text.quote t
  | .octet p t => p.message ++ " in " ++ Text.quote t
  | .negative v version =>
    toString v ++ " (< 0) is not permitted as an IPv" ++ toString version ++ " address"
  | .tooLarge v bits version =>
    toString v ++ " (>= 2**" ++ toString bits ++ ") is not permitted as an IPv" ++
      toString version ++ " address"
  | .partCount t => "At least 3 parts expected in " ++ Text.quote t
  | .colonCount t => "At most 8 colons permitted in " ++ Text.quote t
  | .doubleColons t => "At most one '::' permitted in " ++ Text.quote t
  | .leadingColon t => "Leading ':' only permitted as part of '::' in " ++ Text.quote t
  | .trailingColon t => "Trailing ':' only permitted as part of '::' in " ++ Text.quote t
  | .crowdedSkip t => "Expected at most 7 other parts with '::' in " ++ Text.quote t
  | .partCountNoSkip t => "Exactly 8 parts expected without '::' in " ++ Text.quote t
  | .hextet p t => p.message ++ " in " ++ Text.quote t
  | .tail inner t => inner.message ++ " in " ++ Text.quote t
  | .badScope t => "Invalid IPv6 address: \"" ++ Text.quote t ++ "\""

namespace IpAddress

/-- Whether `c` is an ASCII decimal digit. -/
def isDigit (c : Char) : Bool := '0' ≤ c && c ≤ '9'

/-- The value of a hexadecimal digit. -/
def hexValue? (c : Char) : Option Nat :=
  if '0' ≤ c && c ≤ '9' then some (c.toNat - '0'.toNat)
  else if 'a' ≤ c && c ≤ 'f' then some (c.toNat - 'a'.toNat + 10)
  else if 'A' ≤ c && c ≤ 'F' then some (c.toNat - 'A'.toNat + 10)
  else none

/-- One dotted octet: one to three decimal digits, no leading zero, at most 255. -/
def parseOctet (o : String) : Except OctetProblem Nat :=
  let cs := o.toList
  if cs.isEmpty then .error .empty
  else if !cs.all isDigit then .error (.notDecimal o)
  else if cs.length > 3 then .error (.tooLong o)
  else if o != "0" && cs.head? == some '0' then .error (.leadingZero o)
  else
    let n := cs.foldl (fun n c => n * 10 + (c.toNat - '0'.toNat)) 0
    if n > 255 then .error (.tooLarge n) else .ok n

/-- The octets of `os` as one big-endian number, or the first octet's problem. -/
def octetsValue : List String → Except OctetProblem Nat → Except OctetProblem Nat
  | [], acc => acc
  | o :: os, acc => do
    let a ← acc
    let n ← parseOctet o
    octetsValue os (.ok (a * 256 + n))

/-- The value of a dotted-decimal text. -/
def parseV4Value (t : String) : Except AddressError Nat :=
  if t.isEmpty then .error .empty
  else
    let octets := t.splitOn "."
    if octets.length != 4 then .error (.octetCount t)
    else
      match octetsValue octets (.ok 0) with
      | .ok n => .ok n
      | .error p => .error (.octet p t)

/-- An IPv4 address from its text form; `shown` is the quoted input, for the message about a
`/`. -/
def parseV4 (t shown : String) : Except AddressError IpAddress :=
  if t.contains '/' then .error (.slash shown) else (parseV4Value t).map .v4

/-- An IPv4 address from its number. -/
def ofIntV4 (n : Int) : Except AddressError IpAddress :=
  if n < 0 then .error (.negative n 4)
  else if n ≥ Nat.pow 2 32 then .error (.tooLarge n 32 4)
  else .ok (.v4 n.toNat)

/-- An IPv6 address from its number. -/
def ofIntV6 (n : Int) : Except AddressError IpAddress :=
  if n < 0 then .error (.negative n 6)
  else if n ≥ Nat.pow 2 128 then .error (.tooLarge n 128 6)
  else .ok (.v6 n.toNat none)

/-- One hextet: up to four hexadecimal digits. -/
def parseHextet (h : String) : Except HextetProblem Nat :=
  let cs := h.toList
  if !cs.all (fun c => (hexValue? c).isSome) then .error (.notHex h)
  else if cs.length > 4 then .error (.tooLong h)
  else .ok (cs.foldl (fun n c => n * 16 + (hexValue? c).getD 0) 0)

/-- The hextets of `hs` appended to the big-endian number `acc`. -/
def hextetsValue : List String → Nat → Except HextetProblem Nat
  | [], acc => .ok acc
  | h :: hs, acc => do
    let n ← parseHextet h
    hextetsValue hs (acc * 65536 + n)

/-- `n` in lowercase hexadecimal without leading zeros. -/
def hexText (n : Nat) : String := String.ofList (Nat.toDigits 16 n)

/-- The index of the first empty part strictly inside `parts`, and whether a second one
follows it. -/
def innerEmpty (parts : List String) : Option Nat × Bool :=
  let inner := (parts.drop 1).take (parts.length - 2)
  let empties := (List.range inner.length).filter fun i => inner.getD i "" == ""
  match empties with
  | [] => (none, false)
  | [i] => (some (i + 1), false)
  | i :: _ => (some (i + 1), true)

/-- The value of a colon-hexadecimal text (without its scope). -/
def parseV6Value (t : String) : Except AddressError Nat := do
  if t.isEmpty then throw .empty
  let parts := t.splitOn ":"
  if parts.length < 3 then throw (.partCount t)
  -- a dotted tail stands for the last two hextets
  let parts ← match parts.getLast? with
    | some last =>
      if last.contains '.' then
        match parseV4Value last with
        | .ok v => pure (parts.dropLast ++ [hexText (v / 65536), hexText (v % 65536)])
        | .error e => throw (.tail e t)
      else pure parts
    | none => pure parts
  if parts.length > 9 then throw (.colonCount t)
  let n := parts.length
  let (skip, twice) := innerEmpty parts
  if twice then throw (.doubleColons t)
  let (hi, lo, skipped) ← match skip with
    | some i =>
      let hi := if parts.headD "" == "" then i - 1 else i
      if parts.headD "" == "" && hi != 0 then throw (.leadingColon t)
      let lo := if parts.getLastD "" == "" then n - i - 2 else n - i - 1
      if parts.getLastD "" == "" && lo != 0 then throw (.trailingColon t)
      if hi + lo ≥ 8 then throw (.crowdedSkip t)
      pure (hi, lo, 8 - (hi + lo))
    | none =>
      if n != 8 then throw (.partCountNoSkip t)
      if parts.headD "" == "" then throw (.leadingColon t)
      if parts.getLastD "" == "" then throw (.trailingColon t)
      pure (n, 0, 0)
  let front ← (hextetsValue (parts.take hi) 0).mapError (fun p => AddressError.hextet p t)
  let back ← (hextetsValue (parts.drop (n - lo)) 0).mapError (fun p => AddressError.hextet p t)
  pure ((front * Nat.pow 65536 skipped) * Nat.pow 65536 lo + back)

/-- An IPv6 address from its text form, with an optional `%scope`; `shown` is the quoted
input, for the message about a `/`. -/
def parseV6 (t shown : String) : Except AddressError IpAddress :=
  if t.contains '/' then .error (.slash shown)
  else
    match t.splitOn "%" with
    | [addr] => (parseV6Value addr).map (.v6 · none)
    | addr :: scope :: [] =>
      if scope.isEmpty then .error (.badScope t)
      else (parseV6Value addr).map (.v6 · (some scope))
    | _ => .error (.badScope t)

/-- An address from its text: IPv4 if the text reads as one, else IPv6, whose failure is the
one reported. -/
def ofText (t : String) : Except AddressError IpAddress :=
  match parseV4 t (Text.quote t) with
  | .ok a => .ok a
  | .error _ => parseV6 t (Text.quote t)

/-- The hextets of a 128-bit value, most significant first. -/
def hextets (v : Nat) : List Nat := (List.range 8).reverse.map fun i => v / Nat.pow 65536 i % 65536

/-- The first longest run of zero hextets, as its start and length. -/
def longestZeroRun (hs : List Nat) : Nat × Nat :=
  let step (st : (Nat × Nat) × (Nat × Nat) × Nat) (h : Nat) :=
    let ((bestStart, bestLen), (curStart, curLen), i) := st
    if h == 0 then
      let cur := if curLen == 0 then (i, 1) else (curStart, curLen + 1)
      let best := if cur.2 > bestLen then cur else (bestStart, bestLen)
      (best, cur, i + 1)
    else ((bestStart, bestLen), (0, 0), i + 1)
  (hs.foldl step ((0, 0), (0, 0), 0)).1

/-- The compressed text of a 128-bit value. -/
def v6Text (v : Nat) : String :=
  let hs := hextets v
  let (start, len) := longestZeroRun hs
  if len > 1 then
    let before := (hs.take start).map hexText
    let after := (hs.drop (start + len)).map hexText
    ":".intercalate before ++ "::" ++ ":".intercalate after
  else ":".intercalate (hs.map hexText)

/-- The text of an address: dotted decimal, or compressed colon hexadecimal with its scope. -/
def toText : IpAddress → String
  | .v4 v =>
    ".".intercalate ((List.range 4).reverse.map fun i => toString (v / Nat.pow 256 i % 256))
  | .v6 v none => v6Text v
  | .v6 v (some s) => v6Text v ++ "%" ++ s

/-- The version number of an address, 4 or 6. -/
def version : IpAddress → Nat
  | .v4 _ => 4
  | .v6 _ _ => 6

/-- The number an address stands for. -/
def value : IpAddress → Nat
  | .v4 v => v
  | .v6 v _ => v

end IpAddress

end Ingest
