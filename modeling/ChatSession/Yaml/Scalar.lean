import ChatSession.Yaml.Error
import ChatSession.Data.Value
import ChatSession.Data.Json
import ChatSession.Data.Digit
import ChatSession.Data.LowerCase

/-!
Scalars of the YAML 1.1 types: how they look, and how they read.

A plain scalar gets its type from its look (`looksInt`, `looksFloat`, ...):
`~`, `null` and nothing are null; `yes`, `no`, `true`, `false`, `on`, `off` in
lower, title or upper case are truth values; integers are binary (`0b`),
octal (a leading `0`), decimal, hexadecimal (`0x`) or base 60 (`1:30`) with
`_` anywhere after the first digit; a double needs a point, or is `.inf` or
`.nan`; a timestamp is a date `2001-12-14`, or a date and a time with an
optional fraction and zone. A final line feed is allowed after each form.

Reading (`readInt`, `readFloat`, ...) follows the tag, whatever the look: the
text is then taken apart the way each type's reader does, and text that is
not of the type gives a `ScalarError`. Integer and double text has its
underscores removed and one sign taken off first; decimal integer text then
reads with blanks around it and at most 4300 digits, double text also as
`inf`, `infinity` or `nan`.
-/

namespace ChatSession.Yaml

/-- Text the way a pattern sees it: a final line feed is ignored. -/
def dropFinalFeed (cs : List Char) : List Char :=
  if cs.getLast? == some '\n' then cs.dropLast else cs

/-- A non-empty run of characters that satisfy `p`. -/
def allOf (p : Char → Bool) (cs : List Char) : Bool := !cs.isEmpty && cs.all p

/-- Take off one leading sign: whether it was a minus, and the rest. -/
def splitSign : List Char → Bool × List Char
  | '-' :: rest => (true, rest)
  | '+' :: rest => (false, rest)
  | cs => (false, cs)

def isDigitOrUnderscore (c : Char) : Bool := c.isDigit || c == '_'

/-- A place of a base-60 number after the first: one digit, or two digits
the first of which is at most 5. -/
def isSixtyPlace : List Char → Bool
  | [d] => d.isDigit
  | [a, b] => '0' ≤ a && a ≤ '5' && b.isDigit
  | _ => false

/-- A base-60 number without sign: a first place starting with `first`, then
places after `:`, each of which passes `last` if it is the last one. -/
def looksSexagesimal (firstOk : List Char → Bool) (lastOk : List Char → Bool)
    (cs : List Char) : Bool :=
  match cs.splitOn ':' with
  | first :: places@(_ :: _) =>
    firstOk first && (places.dropLast.all isSixtyPlace) && lastOk (places.getLast?.getD [])
  | _ => false

/-- A leading place: a digit, then digits and underscores. -/
def isLeadPlace : List Char → Bool
  | c :: rest => c.isDigit && rest.all isDigitOrUnderscore
  | [] => false

/-- The looks of a YAML 1.1 integer. -/
def looksInt (cs : List Char) : Bool :=
  let (_, body) := splitSign (dropFinalFeed cs)
  match body with
  | '0' :: 'b' :: ds => allOf (fun c => c == '0' || c == '1' || c == '_') ds
  | '0' :: 'x' :: ds => allOf (fun c => c.isDigit || ('a' ≤ c && c ≤ 'f') ||
      ('A' ≤ c && c ≤ 'F') || c == '_') ds
  | ['0'] => true
  | '0' :: ds => allOf (fun c => ('0' ≤ c && c ≤ '7') || c == '_') ds
  | c :: ds =>
    '1' ≤ c && c ≤ '9' &&
      (ds.all isDigitOrUnderscore ||
        looksSexagesimal (fun f => isLeadPlace f) isSixtyPlace (c :: ds))
  | [] => false

/-- The looks of a YAML 1.1 double. -/
def looksFloat (text : List Char) : Bool :=
  let cs := dropFinalFeed text
  let signed := cs.head? == some '-' || cs.head? == some '+'
  let (_, body) := splitSign cs
  -- digits, a point, digits, and an optional exponent with a sign
  let fraction (after : List Char) : Bool :=
    let exp := after.dropWhile isDigitOrUnderscore
    match exp with
    | [] => true
    | e :: s :: ds => (e == 'e' || e == 'E') && (s == '+' || s == '-') && allOf Char.isDigit ds
    | _ => false
  let decimal : Bool :=
    match body.splitOn '.' with
    | [whole, after] =>
      (isLeadPlace whole && fraction after) ||
        (!signed && whole.isEmpty && (after.head?.map Char.isDigit).getD false && fraction after)
    | _ => false
  let sexagesimal : Bool :=
    looksSexagesimal isLeadPlace
      (fun last => match last.splitOn '.' with
        | [w, f] => isSixtyPlace w && f.all isDigitOrUnderscore
        | _ => false) body
  let special : Bool :=
    [".inf", ".Inf", ".INF"].contains (String.ofList body) ||
      (!signed && [".nan", ".NaN", ".NAN"].contains (String.ofList body))
  decimal || sexagesimal || special

def looksBool (cs : List Char) : Bool :=
  ["yes", "Yes", "YES", "no", "No", "NO", "true", "True", "TRUE", "false", "False", "FALSE",
    "on", "On", "ON", "off", "Off", "OFF"].contains (String.ofList (dropFinalFeed cs))

def looksNull (cs : List Char) : Bool :=
  ["~", "null", "Null", "NULL", ""].contains (String.ofList (dropFinalFeed cs))

/-- The fields of a timestamp's text: year, month and day, and when a time
follows, hour, minute, second, fraction digits and zone (`Z`, or a sign with
hours and optional minutes). -/
structure TimestampText where
  year : List Char
  month : List Char
  day : List Char
  time : Option (List Char × List Char × List Char × List Char ×
    Option (Option (Bool × List Char × List Char)))
deriving Inhabited

/-- One or two digits at the front, and the rest. -/
def oneOrTwoDigits : List Char → Option (List Char × List Char)
  | a :: b :: rest =>
    if a.isDigit then (if b.isDigit then some ([a, b], rest) else some ([a], b :: rest)) else none
  | [a] => if a.isDigit then some ([a], []) else none
  | [] => none

/-- Exactly two digits at the front, and the rest. -/
def twoDigits : List Char → Option (List Char × List Char)
  | a :: b :: rest => if a.isDigit && b.isDigit then some ([a, b], rest) else none
  | _ => none

/-- Read the zone part of a timestamp: blanks, then `Z` or a signed offset, then the end. -/
def zoneText (cs : List Char) : Option (Option (Bool × List Char × List Char)) :=
  match cs.dropWhile (fun c => c == ' ' || c == '\t') with
  | ['Z'] => some none
  | s :: rest =>
    if s == '+' || s == '-' then
      match oneOrTwoDigits rest with
      | some (h, []) => some (some (s == '-', h, []))
      | some (h, ':' :: more) =>
        match twoDigits more with
        | some (m, []) => some (some (s == '-', h, m))
        | _ => none
      | _ => none
    else none
  | [] => none

/-- Take a timestamp's text apart, if it has the form of one. -/
def timestampText? (text : List Char) : Option TimestampText := do
  let cs := dropFinalFeed text
  let (year, rest) ← match cs with
    | a :: b :: c :: d :: '-' :: rest =>
      if [a, b, c, d].all Char.isDigit then some ([a, b, c, d], rest) else none
    | _ => none
  let (month, rest) ← oneOrTwoDigits rest
  let rest ← match rest with
    | '-' :: r => some r
    | _ => none
  let (day, rest) ← oneOrTwoDigits rest
  match rest with
  | [] => return ⟨year, month, day, none⟩
  | sep :: more =>
    let afterSep ← if sep == 'T' || sep == 't' then some more
      else if sep == ' ' || sep == '\t' then some (more.dropWhile fun c => c == ' ' || c == '\t')
      else none
    let (hour, rest) ← oneOrTwoDigits afterSep
    let rest ← match rest with
      | ':' :: r => some r
      | _ => none
    let (minute, rest) ← twoDigits rest
    let rest ← match rest with
      | ':' :: r => some r
      | _ => none
    let (second, rest) ← twoDigits rest
    let (fraction, rest) := match rest with
      | '.' :: r => (r.takeWhile Char.isDigit, r.dropWhile Char.isDigit)
      | r => ([], r)
    let zone ← if rest.isEmpty then some none else (zoneText rest).map some
    return ⟨year, month, day, some (hour, minute, second, fraction, zone)⟩

/-- The looks of a timestamp: a date with two-digit month and day, or a date
and time. -/
def looksTimestamp (cs : List Char) : Bool :=
  match timestampText? cs with
  | some t => t.time.isSome || (t.month.length == 2 && t.day.length == 2)
  | none => false

/-! ### Reading -/

/-- The value of a digit in a base up to 16, if it is one. -/
def digitIn (base : Nat) (c : Char) : Option Nat :=
  let v := if c.isDigit then some (c.toNat - '0'.toNat)
    else if 'a' ≤ c && c ≤ 'z' then some (c.toNat - 'a'.toNat + 10)
    else if 'A' ≤ c && c ≤ 'Z' then some (c.toNat - 'A'.toNat + 10)
    else none
  v.bind fun d => if d < base then some d else none

def digitsValue (base : Nat) (ds : List Nat) : Nat := ds.foldl (fun acc d => base * acc + d) 0

/-- Integer text in a base, the way the integer reader takes it: in ASCII
(`Digit.numberText`), with ASCII blanks around it, one sign, the base's own
prefix (`0b`, `0o`, `0x`), digits; decimal text of more than 4300 digits is
refused before it is read. -/
def parseIntText (base : Nat) (text : String) : Except ScalarError Int := do
  let bad : ScalarError := .badInt base text
  let cs := (Digit.numberText text.toList).dropWhile Digit.isAsciiSpace
  let (neg, cs) := splitSign cs
  let cs := match base, cs with
    | 16, '0' :: x :: rest => if x == 'x' || x == 'X' then rest else cs
    | 8, '0' :: o :: rest => if o == 'o' || o == 'O' then rest else cs
    | 2, '0' :: b :: rest => if b == 'b' || b == 'B' then rest else cs
    | _, _ => cs
  let digits := cs.takeWhile fun c => (digitIn base c).isSome
  let rest := cs.drop digits.length
  if base == 10 && digits.length > 4300 then throw (.tooManyDigits digits.length)
  if digits.isEmpty || !(rest.all Digit.isAsciiSpace) then throw bad
  let n : Int := digitsValue base (digits.filterMap (digitIn base))
  return if neg then -n else n

/-- Read an integer: underscores go, one sign is taken off, then `0` is zero,
`0b` and `0x` start binary and hexadecimal digits, another leading `0` octal
ones, places after `:` count in base 60, and anything else is decimal. -/
def readInt (text : String) : Except ScalarError Int := do
  let cs := text.toList.filter (· != '_')
  let c ← match cs with
    | c :: _ => pure c
    | [] => throw .empty
  let neg := c == '-'
  let body := if c == '-' || c == '+' then cs.drop 1 else cs
  let signed (n : Int) : Int := if neg then -n else n
  match body with
  | ['0'] => return 0
  | '0' :: 'b' :: ds => return signed (← parseIntText 2 (String.ofList ds))
  | '0' :: 'x' :: ds => return signed (← parseIntText 16 (String.ofList ds))
  | '0' :: _ => return signed (← parseIntText 8 (String.ofList body))
  | [] => throw .empty
  | _ =>
    if body.contains ':' then
      let places ← (body.splitOn ':').mapM fun p => parseIntText 10 (String.ofList p)
      return signed (places.foldl (fun acc p => 60 * acc + p) 0)
    else return signed (← parseIntText 10 (String.ofList body))

def infinity : Float := Float.ofScientific 1 false 400

/-- Double text, the way the double reader takes it: in ASCII
(`Digit.numberText`), with ASCII blanks around it, one sign, then `inf`,
`infinity` or `nan` in any case, or digits with an optional point and an
optional exponent. -/
def parseFloatText (text : String) : Except ScalarError Float := do
  let bad : ScalarError := .badFloat text
  let cs := Digit.strippedNumberText text.toList
  let (neg, body) := splitSign cs
  let signed (x : Float) : Float := if neg then -x else x
  let word := String.ofList (body.map Char.toLower)
  if word == "inf" || word == "infinity" then return signed infinity
  if word == "nan" then return (0.0 / 0.0)
  let whole := body.takeWhile Char.isDigit
  let rest := body.drop whole.length
  let (frac, rest) := match rest with
    | '.' :: r => (r.takeWhile Char.isDigit, r.dropWhile Char.isDigit)
    | r => ([], r)
  if whole.isEmpty && frac.isEmpty then throw bad
  let exp ← match rest with
    | [] => pure (0 : Int)
    | e :: more =>
      if e == 'e' || e == 'E' then
        let (eneg, eds) := splitSign more
        if allOf Char.isDigit eds then
          let n : Int := digitsValue 10 (eds.map fun d => d.toNat - '0'.toNat)
          pure (if eneg then -n else n)
        else throw bad
      else throw bad
  let m := digitsValue 10 ((whole ++ frac).map fun d => d.toNat - '0'.toNat)
  return signed (Json.scientificToFloat m (exp - frac.length))

/-- The text of a double with underscores gone and letters lowered. -/
def floatWord (text : String) : List Char :=
  (LowerCase.ofString (String.ofList (text.toList.filter (· != '_')))).toList

/-- Whether double text is the one NaN that `.nan` stands for: every `.nan`
of a document reads as the same value, where other NaN text gives a new one
each time. -/
def isSharedNaN (text : String) : Bool :=
  match floatWord text with
  | '-' :: rest | '+' :: rest => rest == ".nan".toList
  | cs => cs == ".nan".toList

/-- Read a double: underscores go and letters are lowered, one sign is taken
off, then `.inf` and `.nan` are infinity and NaN, places after `:` count in
base 60, and anything else reads as double text. -/
def readFloat (text : String) : Except ScalarError Float := do
  let cs := floatWord text
  let c ← match cs with
    | c :: _ => pure c
    | [] => throw .empty
  let neg := c == '-'
  let body := if c == '-' || c == '+' then cs.drop 1 else cs
  let signed (x : Float) : Float := if neg then -x else x
  let s := String.ofList body
  if s == ".inf" then return signed infinity
  if s == ".nan" then return (0.0 / 0.0)
  if body.contains ':' then
    let places ← (body.splitOn ':').mapM fun p => parseFloatText (String.ofList p)
    -- from the last place on, each place sixty times the one after it
    let (total, _) := places.reverse.foldl
      (fun (acc : Float × Float) p => (acc.1 + p * acc.2, acc.2 * 60.0)) (0.0, 1.0)
    return signed total
  return signed (← parseFloatText s)

/-- Read a truth value from its lower-case word. -/
def readBool (text : String) : Except ScalarError Bool :=
  let w := LowerCase.ofString text
  if w == "yes" || w == "true" || w == "on" then .ok true
  else if w == "no" || w == "false" || w == "off" then .ok false
  else .error (.badBool w)

def decimalValue (ds : List Char) : Nat := digitsValue 10 (ds.map fun d => d.toNat - '0'.toNat)

/-- Read a timestamp: a date alone, or a date and time; the zone offset is
checked before the date and time fields. -/
def readTimestamp (text : String) : Except ScalarError Value := do
  let some t := timestampText? text.toList | throw .noTimestamp
  let check {α : Type} : Except String α → Except ScalarError α := fun r => r.mapError .badTime
  match t.time with
  | none => return .date (← check (Date.make (decimalValue t.year) (decimalValue t.month) (decimalValue t.day)))
  | some (h, m, s, frac, zone) =>
    let micro := decimalValue ((frac.take 6) ++ List.replicate (6 - (frac.take 6).length) '0')
    let offset ← match zone with
      | none => pure none
      | some none => pure (some 0)
      | some (some (neg, zh, zm)) =>
        let minutes : Int := decimalValue zh * 60 + decimalValue zm
        pure (some (← check (Timestamp.checkOffset (if neg then -minutes else minutes))))
    let d ← check (Date.make (decimalValue t.year) (decimalValue t.month) (decimalValue t.day))
    return .time (← check (Timestamp.make d (decimalValue h) (decimalValue m) (decimalValue s) micro offset))

def base64Value (c : Char) : Option Nat :=
  if 'A' ≤ c && c ≤ 'Z' then some (c.toNat - 'A'.toNat)
  else if 'a' ≤ c && c ≤ 'z' then some (c.toNat - 'a'.toNat + 26)
  else if c.isDigit then some (c.toNat - '0'.toNat + 52)
  else if c == '+' then some 62
  else if c == '/' then some 63
  else none

/-- Decode base 64 leniently: characters outside the alphabet are skipped,
and padding after at least two letters of a group ends the data. Text that
ends inside a group gives nothing. -/
def decodeBase64 (cs : List Char) : Option (List UInt8) :=
  -- state: bytes so far (reversed), position in the group, bits carried, pads seen
  let rec go : List Char → List UInt8 → Nat → Nat → Nat → Option (List UInt8)
    | [], acc, q, _, _ => if q == 0 then some acc.reverse else none
    | c :: rest, acc, q, carry, pads =>
      if c == '=' then
        if q ≥ 2 && q + pads + 1 ≥ 4 then some acc.reverse
        else go rest acc q carry (if q ≥ 2 then pads + 1 else pads)
      else match base64Value c with
        | none => go rest acc q carry pads
        | some v =>
          match q with
          | 0 => go rest acc 1 v 0
          | 1 => go rest ((carry * 4 + v / 16).toUInt8 :: acc) 2 (v % 16) 0
          | 2 => go rest ((carry * 16 + v / 4).toUInt8 :: acc) 3 (v % 4) 0
          | _ => go rest ((carry * 64 + v).toUInt8 :: acc) 0 0 0
  go cs [] 0 0 0

example : decodeBase64 "aGVsbG8=".toList = some [104, 101, 108, 108, 111] := by decide +kernel

end ChatSession.Yaml
