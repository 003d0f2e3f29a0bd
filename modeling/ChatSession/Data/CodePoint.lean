/-!
Text that may hold surrogate code points.

A `Char` is a Unicode scalar value, so the surrogate code points U+D800 to
U+DFFF have no `Char` of their own. Yet text may hold them standing alone:
JSON escapes such as `\ud800` give them, and so do bytes decoded with
surrogates let through. Text keeps every code point as characters:

* a surrogate `u` is the mark U+E000 followed by U+E001 + (u - U+D800);
* the mark's own code point is the mark followed by U+10FFFF;
* every other code point is its own character.

The characters after a mark never follow it otherwise, so text tells its code
points back (`CodePoint.points`). Texts compare as their code points do:
surrogates sort after U+D7FF and before U+E000, and so do the two characters
that stand for them. The mark and the characters after it are neither blank,
digits nor letters, as surrogates are not, so character tests read the text
as they would read its code points; only showing text (quoting it, writing it
as JSON) needs the code points themselves.
-/

namespace ChatSession

namespace CodePoint

/-- The character that starts the two characters of a surrogate, and of the
mark's own code point. -/
def mark : Char := '\uE000'

def isSurrogate (n : Nat) : Bool := 0xD800 ≤ n && n < 0xE000

/-- The characters of one code point (at most U+10FFFF). -/
def chars (n : Nat) : List Char :=
  if isSurrogate n then [mark, Char.ofNat (n - 0xD800 + 0xE001)]
  else if n == 0xE000 then [mark, Char.ofNat 0x10FFFF]
  else [Char.ofNat n]

def text (ps : List Nat) : String := String.ofList (ps.flatMap chars)

/-- The text of characters, none of them a surrogate: only the mark changes. -/
def ofChars (cs : List Char) : String := text (cs.map Char.toNat)

/-- The code point that a character after the mark stands for. -/
def afterMark (c : Char) : Option Nat :=
  if c.toNat == 0x10FFFF then some 0xE000
  else if 0xE001 ≤ c.toNat && c.toNat < 0xE801 then some (c.toNat - 0xE001 + 0xD800)
  else none

/-- The code points of text; a mark that nothing fitting follows is its own
code point. -/
def points : List Char → List Nat
  | [] => []
  | [c] => [c.toNat]
  | c :: d :: more =>
    if c == mark then
      match afterMark d with
      | some n => n :: points more
      | none => c.toNat :: points (d :: more)
    else c.toNat :: points (d :: more)

def ofString (s : String) : List Nat := points s.toList

def hasSurrogate (s : String) : Bool := (ofString s).any isSurrogate

example : ofString (text [0x61, 0xD800, 0xE000, 0xDFFF, 0x10FFFF]) =
    [0x61, 0xD800, 0xE000, 0xDFFF, 0x10FFFF] := by decide +kernel

example : text [0xD7FF] < text [0xD800] ∧ text [0xDFFF] < text [0xE000] ∧
    text [0xE000] < text [0xE001] := by decide +kernel

end CodePoint

end ChatSession
