import ChatSession.Data.Value
import ChatSession.Decimal.Layout
import ChatSession.Data.Printable
import ChatSession.Data.CodePoint

/-!
Literal text of values: the notation that messages and the command line use
to show data, e.g. `{'name': 'a', 'ids': [1, 2], 'ok': True, 'none': None}`.

Text is quoted with single quotes unless it holds a single quote and no
double quote. Inside the quotes a backslash, the chosen quote, tab, newline
and carriage return are escaped, and so is every code point that is not
printable (`\x..`, `\u....`, `\U........`), a lone surrogate among them. Byte
strings are written `b'...'` with every byte outside printable ASCII as
`\x..`. A tuple of one item keeps a trailing comma, `(1,)`, and the empty set
is `set()`. The plain text of a value (`Value.text`) is the text itself for
text, the ISO form for dates and timestamps, and its literal otherwise. A
value that holds an integer of more than 4300 digits cannot be shown
(`Value.showable`): it has no text, and stands as `<unprintable T object>`
where a literal must be given anyway (`Value.safeLiteral`).
-/

namespace ChatSession

namespace Literal

/-- Number text in literals: positional from `1e-4` to below `1e16`. -/
def numberLayout : Decimal.Layout := ⟨-4, 16, "nan", "inf"⟩

/-- A character is shown as itself inside quotes. -/
def printable (c : Char) : Bool := Printable.isPrintable c

/-- Lowercase hexadecimal digits of `n`, padded with zeros to `width`. -/
def hexPadded (width n : Nat) : String :=
  let ds := Nat.toDigits 16 n
  String.ofList (List.replicate (width - ds.length) '0' ++ ds)

/-- One code point inside quotes `q`; a surrogate is never printable. -/
def escapePoint (q : Char) (n : Nat) : String :=
  let c := Char.ofNat n
  if CodePoint.isSurrogate n then "\\u" ++ hexPadded 4 n
  else if c == '\\' then "\\\\"
  else if c == q then "\\" ++ String.singleton q
  else if c == '\t' then "\\t"
  else if c == '\n' then "\\n"
  else if c == '\r' then "\\r"
  else if printable c then String.singleton c
  else if n < 0x100 then "\\x" ++ hexPadded 2 n
  else if n < 0x10000 then "\\u" ++ hexPadded 4 n
  else "\\U" ++ hexPadded 8 n

/-- The quote that surrounds a text: double only when the text holds a single
quote and no double quote. -/
def quoteFor (cs : List Char) : Char :=
  if cs.contains '\x27' && !cs.contains '"' then '"' else '\x27'

def quote (s : String) : String :=
  let q := quoteFor s.toList
  String.singleton q ++ String.join ((CodePoint.ofString s).map (escapePoint q)) ++
    String.singleton q

/-- One byte inside quotes `q`. -/
def escapeByte (q : Char) (b : UInt8) : String :=
  let n := b.toNat
  if n == 0x5C then "\\\\"
  else if n == q.toNat then "\\" ++ String.singleton q
  else if n == 9 then "\\t"
  else if n == 10 then "\\n"
  else if n == 13 then "\\r"
  else if n < 0x20 || n ≥ 0x7F then "\\x" ++ hexPadded 2 n
  else String.singleton (Char.ofNat n)

/-- Quoted bytes with their `b` prefix. -/
def quoteBytes (bs : List UInt8) : String :=
  let cs := bs.map fun b => Char.ofNat b.toNat
  let q := quoteFor cs
  "b" ++ String.singleton q ++ String.join (bs.map (escapeByte q)) ++ String.singleton q

end Literal

mutual
def Value.literal : Value → String
  | .null => "None"
  | .bool true => "True"
  | .bool false => "False"
  | .int n => toString n
  | .float x => Literal.numberLayout.render x
  | .str s => Literal.quote s
  | .bytes b => Literal.quoteBytes b
  | .date d => d.literal
  | .time t => t.literal
  | .list xs => "[" ++ Value.literalItems xs ++ "]"
  | .tuple [x] => "(" ++ x.literal ++ ",)"
  | .tuple xs => "(" ++ Value.literalItems xs ++ ")"
  | .set [] => "set()"
  | .set xs => "\x7b" ++ Value.literalItems xs ++ "\x7d"
  | .dict kvs => "\x7b" ++ Value.literalMembers kvs ++ "\x7d"
/-- Items of a list literal, separated by `", "`. -/
def Value.literalItems : List Value → String
  | [] => ""
  | [x] => x.literal
  | x :: xs => x.literal ++ ", " ++ Value.literalItems xs
/-- Members of a dictionary literal, separated by `", "`. -/
def Value.literalMembers : List (Value × Value) → String
  | [] => ""
  | [(k, v)] => k.literal ++ ": " ++ v.literal
  | (k, v) :: rest => k.literal ++ ": " ++ v.literal ++ ", " ++ Value.literalMembers rest
end

/-- Plain text of a value: text stays as it is, dates and timestamps are in
ISO form, everything else is its literal. -/
def Value.text : Value → String
  | .str s => s
  | .date d => d.iso
  | .time t => t.iso
  | v => v.literal

namespace Literal

/-- The most decimal digits an integer's text may have. -/
def maxDigits : Nat := 4300

/-- Why an integer of more than `maxDigits` digits has no text. -/
def digitLimitMessage : String :=
  "Exceeds the limit (4300 digits) for integer string conversion; " ++
    "use sys.set_int_max_str_digits() to increase the limit"

end Literal

mutual
/-- Whether a value can be shown: every integer in it has at most
`Literal.maxDigits` decimal digits. -/
def Value.showable : Value → Bool
  | .int n => n.natAbs < Nat.pow 10 Literal.maxDigits
  | .list xs | .tuple xs | .set xs => Value.showableItems xs
  | .dict kvs => Value.showableMembers kvs
  | _ => true
def Value.showableItems : List Value → Bool
  | [] => true
  | x :: xs => x.showable && Value.showableItems xs
def Value.showableMembers : List (Value × Value) → Bool
  | [] => true
  | (k, v) :: rest => k.showable && v.showable && Value.showableMembers rest
end

/-- Plain text of a value, if it can be shown. -/
def Value.text? (v : Value) : Option String := if v.showable then some v.text else none

/-- The literal of a value, or `<unprintable T object>` (for its type name
`T`) when it cannot be shown. -/
def Value.safeLiteral (v : Value) : String :=
  if v.showable then v.literal else "<unprintable " ++ v.typeName ++ " object>"

end ChatSession
