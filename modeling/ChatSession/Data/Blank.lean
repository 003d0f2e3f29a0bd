/-!
Blank characters.

`isWhiteSpace` is the Unicode White_Space property: the characters that
number and boolean text may be surrounded by. `isSpace` adds the four
information separators U+001C to U+001F; it is the set that trimming display
text removes.
-/

namespace ChatSession.Blank

/-- The Unicode White_Space property. -/
def isWhiteSpace (c : Char) : Bool :=
  let n := c.toNat
  (0x09 ≤ n && n ≤ 0x0D) || n == 0x20 || n == 0x85 || n == 0xA0 || n == 0x1680 ||
    (0x2000 ≤ n && n ≤ 0x200A) || n == 0x2028 || n == 0x2029 || n == 0x202F ||
    n == 0x205F || n == 0x3000

/-- White space and the information separators. -/
def isSpace (c : Char) : Bool :=
  isWhiteSpace c || (0x1C ≤ c.toNat && c.toNat ≤ 0x1F)

/-- Drop characters of a class from both ends. -/
def trimBy (p : Char → Bool) (s : String) : String :=
  String.ofList ((s.toList.dropWhile p).reverse.dropWhile p).reverse

example : trimBy isSpace " \x1c a b \x0b" = "a b" := by decide +kernel

end ChatSession.Blank
