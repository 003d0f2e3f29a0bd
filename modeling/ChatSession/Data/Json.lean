import ChatSession.Data.Value
import ChatSession.Decimal.Layout
import ChatSession.Data.Encoding

/-!
JSON text of values, both ways.

Reading follows RFC 8259 with three additions that the backend's peers send:
`NaN`, `Infinity` and `-Infinity` are numbers. A number with a fraction or an
exponent is a double (correctly rounded, overflowing to infinity); any other is
an integer of any size up to 4300 digits. Object keys keep their first
position and take their last value. Arrays and objects nest at most as deep
as the reader is told (`Json.maxNesting` unless said otherwise); the reader
stops at the first one deeper than that.
Bytes are text in UTF-8, UTF-16 or UTF-32, told apart by a byte-order mark
or by the zero bytes among the first four; a surrogate standing alone, from a
`\u` escape or from the bytes, is kept (see `CodePoint`). Writing puts `", "`
between items and `": "` after keys, keeps non-ASCII characters (a lone
surrogate is written as its `\u` escape), and writes doubles with the
shortest digits that read back.
-/

namespace ChatSession

inductive JsonError where
  | unexpectedEnd
  | unexpected (c : Char)
  | badEscape
  | controlCharacter
  | numberTooLong
  | extraData
  | nestedTooDeep (inObject : Bool)
  | badEncoding
  | exhausted
deriving Repr, DecidableEq

/-- The text of the failure that nesting too deep raises. -/
def JsonError.nestingMessage (inObject : Bool) : String :=
  "maximum recursion depth exceeded while decoding a JSON " ++
    (if inObject then "object" else "array") ++ " from a unicode string"

namespace Json

/-- How deep arrays and objects may nest unless the reader is told otherwise. -/
def maxNesting : Nat := 990

/-- JSON's four blanks. -/
def isBlank (c : Char) : Bool := c == ' ' || c == '\t' || c == '\n' || c == '\r'

def skipBlank : List Char → List Char
  | c :: rest => if isBlank c then skipBlank rest else c :: rest
  | [] => []

def spanDigits (cs : List Char) : List Char × List Char :=
  (cs.takeWhile Char.isDigit, cs.dropWhile Char.isDigit)

/-- The natural number written by decimal digits. -/
def digitsValue (ds : List Char) : Nat :=
  ds.foldl (fun acc d => 10 * acc + (d.toNat - '0'.toNat)) 0

/-- The double nearest to `m * 10^e`; magnitudes past the double range go to
infinity or zero without computing the power. -/
def scientificToFloat (m : Nat) (e : Int) : Float :=
  let len : Int := (Nat.toDigits 10 m).length
  if m == 0 then 0.0
  else if e + len > 310 then Float.ofScientific 1 false 400
  else if e + len < -330 then 0.0
  else if e < 0 then Float.ofScientific m true e.natAbs
  else Float.ofScientific m false e.toNat

/-- Read a number from its text: sign, integer part, optional fraction and exponent. -/
def readNumber (cs : List Char) : Except JsonError (Value × List Char) :=
  let (neg, body) := match cs with
    | '-' :: rest => (true, rest)
    | _ => (false, cs)
  match body with
  | 'I' :: 'n' :: 'f' :: 'i' :: 'n' :: 'i' :: 't' :: 'y' :: rest =>
    if neg then .ok (.float (-(Float.ofScientific 1 false 400)), rest)
    else .error (.unexpected 'I')
  | [] => .error .unexpectedEnd
  | c :: _ =>
    if !c.isDigit then .error (.unexpected c) else
    let (intDigits, rest) :=
      if c == '0' then (['0'], body.drop 1) else spanDigits body
    let (fracDigits, rest, hasFrac) := match rest with
      | '.' :: d :: more =>
        if d.isDigit then
          let (fd, r) := spanDigits (d :: more)
          (fd, r, true)
        else ([], rest, false)
      | _ => ([], rest, false)
    let (expPart, rest, hasExp) : Int × List Char × Bool := match rest with
      | e :: more =>
        if e == 'e' || e == 'E' then
          let (sgn, more') := match more with
            | '-' :: r => (-1, r)
            | '+' :: r => (1, r)
            | r => (1, r)
          match more' with
          | d :: _ =>
            if d.isDigit then
              let (ed, r) := spanDigits more'
              (sgn * (digitsValue ed : Int), r, true)
            else (0, rest, false)
          | [] => (0, rest, false)
        else (0, rest, false)
      | [] => (0, rest, false)
    if hasFrac || hasExp then
      let m := digitsValue (intDigits ++ fracDigits)
      let x := scientificToFloat m (expPart - fracDigits.length)
      .ok (.float (if neg then -x else x), rest)
    else if intDigits.length > 4300 then .error .numberTooLong
    else
      let n : Int := digitsValue intDigits
      .ok (.int (if neg then -n else n), rest)

def hexValue (c : Char) : Option Nat :=
  if c.isDigit then some (c.toNat - '0'.toNat)
  else if 'a' ≤ c ∧ c ≤ 'f' then some (c.toNat - 'a'.toNat + 10)
  else if 'A' ≤ c ∧ c ≤ 'F' then some (c.toNat - 'A'.toNat + 10)
  else none

/-- Four hexadecimal digits as a code unit. -/
def hex4 : List Char → Option (Nat × List Char)
  | a :: b :: c :: d :: rest =>
    match hexValue a, hexValue b, hexValue c, hexValue d with
    | some w, some x, some y, some z => some (((w * 16 + x) * 16 + y) * 16 + z, rest)
    | _, _, _, _ => none
  | _ => none

/-- The code point of a `\u` escape, joining a surrogate pair; a surrogate
may also stand alone. -/
def unitEscape (cs : List Char) : Except JsonError (Nat × List Char) :=
  match hex4 cs with
  | none => .error .badEscape
  | some (u, rest) =>
    if 0xD800 ≤ u ∧ u < 0xDC00 then
      match rest with
      | '\\' :: 'u' :: more =>
        match hex4 more with
        | some (l, rest') =>
          if 0xDC00 ≤ l ∧ l < 0xE000 then .ok (0x10000 + (u - 0xD800) * 0x400 + (l - 0xDC00), rest')
          else .ok (u, rest)
        | none => .ok (u, rest)
      | _ => .ok (u, rest)
    else .ok (u, rest)

/-- Read the rest of a string after its opening quote, collecting characters in
reverse. The characters of the text are kept as they are, and an escape gives
the characters of its code point (`CodePoint.chars`). -/
def readString (acc : List Char) : List Char → Except JsonError (String × List Char)
  | [] => .error .unexpectedEnd
  | '"' :: rest => .ok (String.ofList acc.reverse, rest)
  | '\\' :: c :: rest =>
    match c with
    | '"' => readString ('"' :: acc) rest
    | '\\' => readString ('\\' :: acc) rest
    | '/' => readString ('/' :: acc) rest
    | 'b' => readString ('\x08' :: acc) rest
    | 'f' => readString ('\x0c' :: acc) rest
    | 'n' => readString ('\n' :: acc) rest
    | 'r' => readString ('\r' :: acc) rest
    | 't' => readString ('\t' :: acc) rest
    | 'u' =>
      match unitEscape rest with
      | .ok (u, rest') =>
        -- the escape is at least six characters long, so the rest is shorter
        if rest'.length < rest.length then readString ((CodePoint.chars u).reverse ++ acc) rest'
        else .error .badEscape
      | .error e => .error e
    | _ => .error .badEscape
  | c :: rest => if c.toNat < 0x20 then .error .controlCharacter else readString (c :: acc) rest
termination_by cs => cs.length

mutual
/-- Read one value after leading blanks, inside `depth` arrays and objects of
at most `limit`. Every call spends one unit of `fuel`; twice the length of the
text is enough, since each value and each separator takes at least one
character. -/
def readValue (limit : Nat) : Nat → Nat → List Char → Except JsonError (Value × List Char)
  | 0, _, _ => .error .exhausted
  | fuel + 1, depth, cs =>
    match skipBlank cs with
    | [] => .error .unexpectedEnd
    | '{' :: rest =>
      if depth < limit then readObject limit fuel (depth + 1) [] true rest
      else .error (.nestedTooDeep true)
    | '[' :: rest =>
      if depth < limit then readArray limit fuel (depth + 1) [] true rest
      else .error (.nestedTooDeep false)
    | '"' :: rest => (readString [] rest).map fun (s, r) => (.str s, r)
    | 'n' :: 'u' :: 'l' :: 'l' :: rest => .ok (.null, rest)
    | 't' :: 'r' :: 'u' :: 'e' :: rest => .ok (.bool true, rest)
    | 'f' :: 'a' :: 'l' :: 's' :: 'e' :: rest => .ok (.bool false, rest)
    | 'N' :: 'a' :: 'N' :: rest => .ok (.float (0.0 / 0.0), rest)
    | 'I' :: 'n' :: 'f' :: 'i' :: 'n' :: 'i' :: 't' :: 'y' :: rest =>
      .ok (.float (Float.ofScientific 1 false 400), rest)
    | c :: rest =>
      if c == '-' || c.isDigit then readNumber (c :: rest) else .error (.unexpected c)
/-- Read array items after `[`, or after a comma when `first` is false. -/
def readArray (limit : Nat) :
    Nat → Nat → List Value → Bool → List Char → Except JsonError (Value × List Char)
  | 0, _, _, _, _ => .error .exhausted
  | fuel + 1, depth, acc, first, cs =>
    match skipBlank cs with
    | ']' :: rest => if first then .ok (.list [], rest) else .error (.unexpected ']')
    | cs' =>
      match readValue limit fuel depth cs' with
      | .error e => .error e
      | .ok (v, rest) =>
        match skipBlank rest with
        | ',' :: more => readArray limit fuel depth (v :: acc) false more
        | ']' :: more => .ok (.list (v :: acc).reverse, more)
        | [] => .error .unexpectedEnd
        | c :: _ => .error (.unexpected c)
/-- Read object members after `{`, or after a comma when `first` is false; the
members so far are kept last first. -/
def readObject (limit : Nat) : Nat → Nat → List (Value × Value) → Bool → List Char →
    Except JsonError (Value × List Char)
  | 0, _, _, _, _ => .error .exhausted
  | fuel + 1, depth, acc, first, cs =>
    match skipBlank cs with
    | '}' :: rest => if first then .ok (.dict [], rest) else .error (.unexpected '}')
    | '"' :: rest =>
      match readString [] rest with
      | .error e => .error e
      | .ok (key, rest) =>
        match skipBlank rest with
        | ':' :: more =>
          match readValue limit fuel depth more with
          | .error e => .error e
          | .ok (v, rest) =>
            let acc := (.str key, v) :: acc
            match skipBlank rest with
            | ',' :: more => readObject limit fuel depth acc false more
            | '}' :: more => .ok (.dict (Value.ofEntriesQuick acc.reverse), more)
            | [] => .error .unexpectedEnd
            | c :: _ => .error (.unexpected c)
        | [] => .error .unexpectedEnd
        | c :: _ => .error (.unexpected c)
    | [] => .error .unexpectedEnd
    | c :: _ => .error (.unexpected c)
end

end Json

/-- Read a whole JSON document whose arrays and objects nest at most `limit`
deep; blanks may surround it. -/
def Value.ofJsonWithin (limit : Nat) (text : String) : Except JsonError Value :=
  let cs := text.toList
  match Json.readValue limit (2 * cs.length + 2) 0 cs with
  | .error e => .error e
  | .ok (v, rest) => if (Json.skipBlank rest).isEmpty then .ok v else .error .extraData

/-- Read a whole JSON document; blanks may surround it. -/
def Value.ofJson (text : String) : Except JsonError Value :=
  Value.ofJsonWithin Json.maxNesting text

namespace Json

/-- The encoding of JSON bytes, and the bytes after its byte-order mark: a
mark names it; otherwise text that starts with ASCII tells it by where the
zero bytes among the first four (or the only two) stand. -/
def detectEncoding : List UInt8 → Encoding × List UInt8
  | 0x00 :: 0x00 :: 0xFE :: 0xFF :: rest => (.utf32 true, rest)
  | 0xFF :: 0xFE :: 0x00 :: 0x00 :: rest => (.utf32 false, rest)
  | 0xFE :: 0xFF :: rest => (.utf16 true, rest)
  | 0xFF :: 0xFE :: rest => (.utf16 false, rest)
  | 0xEF :: 0xBB :: 0xBF :: rest => (.utf8, rest)
  | bs@(b0 :: b1 :: b2 :: b3 :: _) =>
    if b0 == 0 then (if b1 != 0 then .utf16 true else .utf32 true, bs)
    else if b1 == 0 then (if b2 != 0 || b3 != 0 then .utf16 false else .utf32 false, bs)
    else (.utf8, bs)
  | [b0, b1] =>
    (if b0 == 0 then .utf16 true else if b1 == 0 then .utf16 false else .utf8, [b0, b1])
  | bs => (.utf8, bs)

end Json

/-- Read a whole JSON document from bytes, in the encoding they show;
surrogates in them are let through. Arrays and objects nest at most `limit`
deep. -/
def Value.ofJsonBytes (limit : Nat) (bs : List UInt8) : Except JsonError Value :=
  let (enc, body) := Json.detectEncoding bs
  match enc.decode true body with
  | some text => Value.ofJsonWithin limit text
  | none => .error .badEncoding

namespace Json

/-- Number text in JSON documents: positional from `1e-4` to below `1e16`. -/
def numberLayout : Decimal.Layout := ⟨-4, 16, "NaN", "Infinity"⟩

/-- Four lowercase hexadecimal digits of a code unit. -/
def hex4Text (n : Nat) : String :=
  let ds := Nat.toDigits 16 n
  String.ofList (List.replicate (4 - ds.length) '0' ++ ds)

def escapeChar (c : Char) : String :=
  match c with
  | '"' => "\\\""
  | '\\' => "\\\\"
  | '\n' => "\\n"
  | '\r' => "\\r"
  | '\t' => "\\t"
  | '\x08' => "\\b"
  | '\x0c' => "\\f"
  | c => if c.toNat < 0x20 then "\\u" ++ hex4Text c.toNat else String.singleton c

/-- A code point inside a quoted JSON string: a surrogate by its escape. -/
def escapePoint (n : Nat) : String :=
  if CodePoint.isSurrogate n then "\\u" ++ hex4Text n else escapeChar (Char.ofNat n)

def quote (s : String) : String :=
  "\"" ++ String.join ((CodePoint.ofString s).map escapePoint) ++ "\""

end Json

/-- An object key: text as is, scalars by their JSON text. -/
def Value.jsonKey : Value → String
  | .str s => Json.quote s
  | .null => "\"null\""
  | .bool true => "\"true\""
  | .bool false => "\"false\""
  | .int n => Json.quote (toString n)
  | .float x => Json.quote (Json.numberLayout.render x)
  | other => Json.quote other.typeName

mutual
def Value.toJson : Value → String
  | .null => "null"
  | .bool true => "true"
  | .bool false => "false"
  | .int n => toString n
  | .float x => Json.numberLayout.render x
  | .str s => Json.quote s
  | .bytes b => Json.quote (String.ofList (b.map fun u => Char.ofNat u.toNat))
  | .date d => Json.quote d.iso
  | .time t => Json.quote t.iso
  | .list xs | .tuple xs | .set xs => "[" ++ Value.toJsonItems xs ++ "]"
  | .dict kvs => "\x7b" ++ Value.toJsonMembers kvs ++ "\x7d"
/-- Items of a JSON array, separated by `", "`. -/
def Value.toJsonItems : List Value → String
  | [] => ""
  | [x] => x.toJson
  | x :: xs => x.toJson ++ ", " ++ Value.toJsonItems xs
/-- Members of a JSON object, separated by `", "`. -/
def Value.toJsonMembers : List (Value × Value) → String
  | [] => ""
  | [(k, v)] => Value.jsonKey k ++ ": " ++ v.toJson
  | (k, v) :: rest => Value.jsonKey k ++ ": " ++ v.toJson ++ ", " ++ Value.toJsonMembers rest
end

end ChatSession
