import ChatSession.Decimal.Shortest

/-!
Laying out a shortest decimal as text.

The digits come from `Decimal.Shortest`; a `Layout` decides the rest: which
exponents are written positionally, and the texts of the special values.
Integral values keep a `.0`, and the exponent form has a sign and at least
two digits (`1e+16`, `1.5e-05`).
-/

namespace ChatSession.Decimal

/-- The decisions of a number format beyond the choice of digits. -/
structure Layout where
  plainFrom : Int
  plainBelow : Int
  nan : String
  inf : String

/-- Positional text of `digits * 10^exp`, with at least one digit after the point. -/
def positional (ds : List Char) (exp : Int) : String :=
  let n : Int := ds.length
  if 0 ≤ exp then
    String.ofList (ds ++ List.replicate exp.toNat '0') ++ ".0"
  else if 0 < n + exp then
    let whole := ds.take (n + exp).toNat
    let frac := ds.drop (n + exp).toNat
    String.ofList whole ++ "." ++ String.ofList frac
  else
    "0." ++ String.ofList (List.replicate (-(n + exp)).toNat '0' ++ ds)

/-- Exponent text of `digits * 10^exp`: one digit before the point, then the
exponent with its sign and at least two digits. -/
def scientific (ds : List Char) (exp : Int) : String :=
  let lead : Int := exp + ds.length - 1
  let mant := match ds with
    | [] => "0"
    | [d] => String.singleton d
    | d :: rest => String.singleton d ++ "." ++ String.ofList rest
  let mag := digitsOf lead.natAbs
  let mag := if mag.length < 2 then '0' :: mag else mag
  mant ++ "e" ++ (if lead < 0 then "-" else "+") ++ String.ofList mag

/-- Text of a finite non-negative decimal under the layout. -/
def Layout.decimal (L : Layout) (d : Dec) : String :=
  let ds := digitsOf d.digits
  let lead : Int := d.exp + ds.length - 1
  if d.digits = 0 then "0.0"
  else if L.plainFrom ≤ lead ∧ lead < L.plainBelow then positional ds d.exp
  else scientific ds d.exp

/-- Text of a double under the layout: sign, then the shortest digits laid out. -/
def Layout.render (L : Layout) (x : Float) : String :=
  if x.isNaN then L.nan
  else
    let bits := x.toBits
    let neg := bits >>> 63 == 1
    let sign := if neg then "-" else ""
    if x.isInf then sign ++ L.inf
    else sign ++ L.decimal (Binary.ofBits bits).shortest

end ChatSession.Decimal
