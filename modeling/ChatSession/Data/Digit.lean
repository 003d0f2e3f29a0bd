import ChatSession.Data.Blank

/-!
Decimal digits of every script, and number text in ASCII.

Unicode 14.0 has 66 runs of decimal digits (general category Nd), from the
ASCII digits to the mathematical and segmented ones; each run holds the digits
zero to nine in order. The number readers take any of them as the ASCII digit
of the same value: `numberText` rewrites text that way before it is read,
with blanks beyond ASCII as spaces. The first other character beyond ASCII
ends the text, and a `?` (which no number holds) takes its place, so the text
is refused. Characters below U+007F stay as they are.
-/

namespace ChatSession.Digit

/-- The first code point of every run of ten decimal digits. -/
def runStarts : List Nat :=
  [0x30, 0x660, 0x6F0, 0x7C0, 0x966, 0x9E6, 0xA66, 0xAE6, 0xB66, 0xBE6, 0xC66, 0xCE6, 0xD66,
   0xDE6, 0xE50, 0xED0, 0xF20, 0x1040, 0x1090, 0x17E0, 0x1810, 0x1946, 0x19D0, 0x1A80, 0x1A90,
   0x1B50, 0x1BB0, 0x1C40, 0x1C50, 0xA620, 0xA8D0, 0xA900, 0xA9D0, 0xA9F0, 0xAA50, 0xABF0,
   0xFF10, 0x104A0, 0x10D30, 0x11066, 0x110F0, 0x11136, 0x111D0, 0x112F0, 0x11450, 0x114D0,
   0x11650, 0x116C0, 0x11730, 0x118E0, 0x11950, 0x11C50, 0x11D50, 0x11DA0, 0x16A60, 0x16AC0,
   0x16B50, 0x1D7CE, 0x1D7D8, 0x1D7E2, 0x1D7EC, 0x1D7F6, 0x1E140, 0x1E2F0, 0x1E950, 0x1FBF0]

/-- The value of a decimal digit of any script. -/
def value? (c : Char) : Option Nat :=
  (runStarts.find? fun s => s ≤ c.toNat && c.toNat < s + 10).map (c.toNat - ·)

/-- Whether a character is a decimal digit of any script. -/
def isDecimal (c : Char) : Bool := (value? c).isSome

/-- The six ASCII blanks: space, tab, line feed, vertical tab, form feed and
carriage return. -/
def isAsciiSpace (c : Char) : Bool :=
  c == ' ' || (0x09 ≤ c.toNat && c.toNat ≤ 0x0D)

/-- Number text in ASCII: digits of other scripts as ASCII digits, blanks
beyond ASCII as spaces, and text after any other character beyond ASCII
replaced by `?`. -/
def numberText : List Char → List Char
  | [] => []
  | c :: rest =>
    if c.toNat < 0x7F then c :: numberText rest
    else if Blank.isWhiteSpace c then ' ' :: numberText rest
    else match value? c with
      | some d => Char.ofNat (0x30 + d) :: numberText rest
      | none => ['?']

/-- Number text in ASCII without the ASCII blanks around it. -/
def strippedNumberText (cs : List Char) : List Char :=
  (((numberText cs).dropWhile isAsciiSpace).reverse.dropWhile isAsciiSpace).reverse

example : numberText "١٢ x".toList = "12 x".toList ∧ numberText "٣é1".toList = "3?".toList := by
  decide +kernel

end ChatSession.Digit
