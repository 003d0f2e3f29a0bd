import ChatSession.Data.CodePoint

/-!
Text from bytes in the Unicode encoding forms: UTF-8, and UTF-16 and UTF-32
in either byte order.

A truncated or ill-formed code unit sequence and a code point beyond U+10FFFF
leave the bytes without a text. Surrogate code points are refused too, unless
they are let through: then the three UTF-8 bytes of a surrogate, a UTF-16
surrogate that does not pair up and a UTF-32 surrogate each give that
surrogate, kept in the text as `CodePoint` says.
-/

namespace ChatSession

/-- A Unicode encoding form. -/
inductive Encoding where
  | utf8
  | utf16 (bigEndian : Bool)
  | utf32 (bigEndian : Bool)
deriving Repr, DecidableEq, Inhabited

namespace Encoding

/-- Whether a byte continues a UTF-8 sequence, between `lo` and `hi`. -/
def continues (lo hi : Nat) (b : UInt8) : Bool := lo ≤ b.toNat && b.toNat ≤ hi

/-- The code points of UTF-8 bytes, collected in reverse after `acc`. The
second byte of a three- or four-byte sequence has a narrower range, which
keeps out overlong forms, code points beyond U+10FFFF and (unless
`surrogates`) the surrogates. -/
def points8 (surrogates : Bool) (acc : List Nat) : List UInt8 → Option (List Nat)
  | [] => some acc.reverse
  | b :: rest =>
    let n := b.toNat
    if n < 0x80 then points8 surrogates (n :: acc) rest
    else if n < 0xC2 then none
    else if n < 0xE0 then
      match rest with
      | c :: more =>
        if continues 0x80 0xBF c then
          points8 surrogates (((n - 0xC0) * 64 + (c.toNat - 0x80)) :: acc) more
        else none
      | [] => none
    else if n < 0xF0 then
      match rest with
      | c :: d :: more =>
        let lo := if n == 0xE0 then 0xA0 else 0x80
        let hi := if n == 0xED && !surrogates then 0x9F else 0xBF
        if continues lo hi c && continues 0x80 0xBF d then
          let p := (n - 0xE0) * 4096 + (c.toNat - 0x80) * 64 + (d.toNat - 0x80)
          points8 surrogates (p :: acc) more
        else none
      | _ => none
    else if n < 0xF5 then
      match rest with
      | c :: d :: e :: more =>
        let lo := if n == 0xF0 then 0x90 else 0x80
        let hi := if n == 0xF4 then 0x8F else 0xBF
        if continues lo hi c && continues 0x80 0xBF d && continues 0x80 0xBF e then
          let p := (n - 0xF0) * 262144 + (c.toNat - 0x80) * 4096 + (d.toNat - 0x80) * 64 +
            (e.toNat - 0x80)
          points8 surrogates (p :: acc) more
        else none
      | _ => none
    else none

/-- The code units of two bytes each. -/
def units16 (bigEndian : Bool) : List UInt8 → Option (List Nat)
  | [] => some []
  | a :: b :: rest =>
    let u := if bigEndian then a.toNat * 256 + b.toNat else b.toNat * 256 + a.toNat
    (units16 bigEndian rest).map (u :: ·)
  | [_] => none

/-- Code points from UTF-16 code units: a high surrogate followed by a low one
make one code point; any other surrogate stands alone, if `surrogates`. -/
def joinSurrogates (surrogates : Bool) : List Nat → Option (List Nat)
  | [] => some []
  | [u] => if CodePoint.isSurrogate u && !surrogates then none else some [u]
  | u :: l :: more =>
    if 0xD800 ≤ u ∧ u < 0xDC00 ∧ 0xDC00 ≤ l ∧ l < 0xE000 then
      (joinSurrogates surrogates more).map ((0x10000 + (u - 0xD800) * 0x400 + (l - 0xDC00)) :: ·)
    else if CodePoint.isSurrogate u && !surrogates then none
    else (joinSurrogates surrogates (l :: more)).map (u :: ·)

/-- Code points of four bytes each. -/
def points32 (surrogates : Bool) (bigEndian : Bool) : List UInt8 → Option (List Nat)
  | [] => some []
  | a :: b :: c :: d :: rest =>
    let (w, x, y, z) := if bigEndian then (a, b, c, d) else (d, c, b, a)
    let n := ((w.toNat * 256 + x.toNat) * 256 + y.toNat) * 256 + z.toNat
    if n ≤ 0x10FFFF && (surrogates || !CodePoint.isSurrogate n) then
      (points32 surrogates bigEndian rest).map (n :: ·)
    else none
  | _ => none

/-- The code points that bytes encode in an encoding form. -/
def decodePoints (surrogates : Bool) : Encoding → List UInt8 → Option (List Nat)
  | .utf8, bs => points8 surrogates [] bs
  | .utf16 be, bs => units16 be bs >>= joinSurrogates surrogates
  | .utf32 be, bs => points32 surrogates be bs

/-- The text that bytes encode in an encoding form, surrogates let through
when `surrogates`. -/
def decode (enc : Encoding) (surrogates : Bool) (bs : List UInt8) : Option String :=
  (decodePoints surrogates enc bs).map CodePoint.text

example : decode (.utf16 false) false [0x61, 0, 0x3D, 0xD8, 0x00, 0xDE] = some "a😀" := by
  decide +kernel

example : decode (.utf32 true) false [0, 0, 0, 0x7B] = some "\x7b" := by decide +kernel

example : decodePoints true .utf8 [0xED, 0xA0, 0x80] = some [0xD800] ∧
    decodePoints false .utf8 [0xED, 0xA0, 0x80] = none := by decide +kernel

end Encoding

end ChatSession
