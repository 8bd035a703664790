import Harvest.Decimal.Shortest
import Harvest.Text.Digit

/-!
# Decimal numbers as text

`Layout` holds the choices that turn the digits of a decimal into text, and `plain` is the layout of
this library: positional from one ten-thousandth up to sixteen digits before the point, always with
a fraction, otherwise an exponent of at least two digits with its sign.
-/

namespace Harvest.Decimal

/-- How a decimal is written. -/
structure Layout where
  /-- The least place of the point, counted from the first digit, for positional notation. -/
  leastPoint : Int
  /-- The greatest place of the point for positional notation. -/
  greatestPoint : Int
  /-- The least number of digits of an exponent. -/
  exponentDigits : Nat
  /-- The text of "not a number". -/
  nan : String
  /-- The text of positive infinity. -/
  infinity : String

/-- Positional for magnitudes from 0.0001 to below 10 ^ 16. -/
def plain : Layout :=
  { leastPoint := -3, greatestPoint := 16, exponentDigits := 2, nan := "nan", infinity := "inf" }

/-- The digits `ds` with the point after the first `point` of them. -/
def positional (ds : List Char) (point : Int) : List Char :=
  if point ≤ 0 then '0' :: '.' :: (List.replicate (-point).toNat '0' ++ ds)
  else
    let whole := ds.take point.toNat
    let fraction := ds.drop point.toNat
    whole ++ List.replicate (point.toNat - ds.length) '0' ++
      '.' :: (if fraction.isEmpty then ['0'] else fraction)

/-- The digits `ds` with the point after the first one, and the exponent. -/
def scientific (layout : Layout) (ds : List Char) (exponent : Int) : List Char :=
  let es := Nat.toDigits 10 exponent.natAbs
  ds.take 1 ++ (if ds.length ≤ 1 then [] else '.' :: ds.drop 1) ++ ['e'] ++
    [if exponent < 0 then '-' else '+'] ++
    List.replicate (layout.exponentDigits - es.length) '0' ++ es

/-- A decimal as text. -/
def Layout.number (layout : Layout) (n : Number) : String :=
  let ds := Nat.toDigits 10 n.digits
  let point := (ds.length : Int) + n.exponent
  String.ofList <|
    if layout.leastPoint ≤ point ∧ point ≤ layout.greatestPoint then positional ds point
    else scientific layout ds (point - 1)

/-- A `Float` as text: the shortest digits that read back. -/
def Layout.float (layout : Layout) (x : Float) : String :=
  let sign := if x.toBits.toNat / Nat.pow 2 63 = 1 then "-" else ""
  if x.isNaN then layout.nan
  else if x.isInf then sign ++ layout.infinity
  else if (binary x).mantissa = 0 then sign ++ "0.0"
  else sign ++ layout.number (shortest x)

end Harvest.Decimal
