/-!
Shortest decimal digits of a binary64 value.

A finite double stands for the interval of reals that round to it. The digits
chosen here are the fewest that land in that interval, and of two such
decimals on the same grid the nearer one (an exact tie goes to the even
digit). Everything is exact arithmetic on naturals: no float operation is
involved, so the choice is open to proof.
-/

namespace ChatSession.Decimal

/-- A finite non-negative binary64 value, `m * 2^q`. -/
structure Binary where
  m : Nat
  q : Int
  narrowBelow : Bool
deriving Repr, DecidableEq

/-- The bits of a finite value, sign dropped. NaN and the infinities are no such value. -/
def Binary.ofBits (b : UInt64) : Binary :=
  let e := ((b >>> 52) &&& 0x7FF).toNat
  let f := (b &&& 0xFFFFFFFFFFFFF).toNat
  if e == 0 then ⟨f, -1074, false⟩ else ⟨Nat.pow 2 52 + f, (e : Int) - 1075, f == 0 && e > 1⟩

/-- A decimal `digits * 10^exp`. -/
structure Dec where
  digits : Nat
  exp : Int
deriving Repr, DecidableEq

/-- Compare `a * 10^i` with `n * 2^j`, exactly. -/
def cmpScaled (a : Nat) (i : Int) (n : Nat) (j : Int) : Ordering :=
  compare (a * Nat.pow 10 i.toNat * Nat.pow 2 (-j).toNat)
    (n * Nat.pow 2 j.toNat * Nat.pow 10 (-i).toNat)

/-- The decimal lies among the reals that round to `x` (to nearest, ties to even). -/
def Binary.readsBack (x : Binary) (d : Dec) : Bool :=
  let lo := if x.narrowBelow then 4 * x.m - 1 else 4 * x.m - 2
  let hi := 4 * x.m + 2
  let incl := x.m % 2 == 0
  let cl := cmpScaled d.digits d.exp lo (x.q - 2)
  let ch := cmpScaled d.digits d.exp hi (x.q - 2)
  (cl == .gt || (incl && cl == .eq)) && (ch == .lt || (incl && ch == .eq))

/-- The value as a fraction `num / den` of naturals. -/
def Binary.num (x : Binary) : Nat := x.m * Nat.pow 2 x.q.toNat

def Binary.den (x : Binary) : Nat := Nat.pow 2 (-x.q).toNat

/-- `num / den < 10^k`, exactly. -/
def below (num den : Nat) (k : Int) : Bool :=
  num * Nat.pow 10 (-k).toNat < den * Nat.pow 10 k.toNat

/-- The least `k` with `num / den < 10^k`, searched upward from a lower bound. -/
def scaleFrom (num den : Nat) : Nat → Int → Int
  | 0, k => k
  | fuel + 1, k => if below num den k then k else scaleFrom num den fuel (k + 1)

/-- The least `k` with `x < 10^k`, for a non-zero `x`. Every double lies in
`[10^-324, 10^309)`, so an upward search from `-324` ends within 640 steps. -/
def Binary.scale (x : Binary) : Int := scaleFrom x.num x.den 640 (-324)

/-- The value's lower neighbour on the grid `10^g`: `⌊x / 10^g⌋`. -/
def Binary.floorOn (x : Binary) (g : Int) : Nat :=
  x.num * Nat.pow 10 (-g).toNat / (x.den * Nat.pow 10 g.toNat)

/-- Of the two neighbours `c` and `c + 1` on the grid `10^g`, the one to keep when
both read back: the nearer, and on an exact tie the even one. -/
def Binary.nearer (x : Binary) (c : Nat) (g : Int) : Nat :=
  -- twice the value against c + (c + 1), both scaled by 10^-g
  let twice := 2 * x.num * Nat.pow 10 (-g).toNat
  let mid := (2 * c + 1) * x.den * Nat.pow 10 g.toNat
  if twice < mid then c else if mid < twice then c + 1 else if c % 2 == 0 then c else c + 1

/-- The decimal chosen on the grid `10^g`, if one of the value's neighbours reads back. -/
def Binary.onGrid (x : Binary) (g : Int) : Option Dec :=
  let c := x.floorOn g
  match x.readsBack ⟨c, g⟩, x.readsBack ⟨c + 1, g⟩ with
  | true, true => some ⟨x.nearer c g, g⟩
  | true, false => some ⟨c, g⟩
  | false, true => some ⟨c + 1, g⟩
  | false, false => none

/-- Move trailing zeros of the digits into the exponent. -/
def Dec.strip : Nat → Dec → Dec
  | 0, d => d
  | fuel + 1, d =>
    if d.digits != 0 && d.digits % 10 == 0 then Dec.strip fuel ⟨d.digits / 10, d.exp + 1⟩ else d

/-- The exact decimal value of `x`: `m * 5^-q * 10^q` when `q < 0`. -/
def Binary.exact (x : Binary) : Dec :=
  if x.q < 0 then ⟨x.m * Nat.pow 5 (-x.q).toNat, x.q⟩ else ⟨x.m * Nat.pow 2 x.q.toNat, 0⟩

/-- The fewest digits that read back as `x`, for `n = 1, 2, …, 17` digits in turn;
the exact value if none does (seventeen digits always suffice). -/
def Binary.shortest (x : Binary) : Dec :=
  if x.m == 0 then ⟨0, 0⟩ else
  let k := x.scale
  let found := (List.range 17).findSome? fun (i : Nat) => x.onGrid (k - ((i : Int) + 1))
  Dec.strip 40 (found.getD x.exact)

/-- The decimal digits of `n`, most significant first (`[0]` for zero). -/
def digitsOf (n : Nat) : List Char := (Nat.toDigits 10 n)

/-- The value of an integral `x` as a natural, or `none` when `x` has a fractional part. -/
def Binary.toNat? (x : Binary) : Option Nat :=
  if 0 ≤ x.q then some (x.m * Nat.pow 2 x.q.toNat)
  else if x.m % Nat.pow 2 (-x.q).toNat == 0 then some (x.m / Nat.pow 2 (-x.q).toNat) else none

example : (Binary.ofBits (1.0 : Float).toBits).shortest = ⟨1, 0⟩ := by decide +kernel
example : (Binary.ofBits (0.1 : Float).toBits).shortest = ⟨1, -1⟩ := by decide +kernel
example : (Binary.ofBits (1e23 : Float).toBits).shortest = ⟨1, 23⟩ := by decide +kernel
example : (Binary.ofBits 1).shortest = ⟨5, -324⟩ := by decide +kernel

end ChatSession.Decimal
