/-!
# The shortest decimal of a floating-point number

A finite positive `Float` is `m * 2 ^ q` for naturals `m` and an integer `q`.  Every real in an
interval around it rounds to it.  `shortest` finds the decimal with the fewest digits in that
interval, and of those the nearest: on the grid of each digit count, from one on, only the two
neighbours of the number have to be looked at.  All arithmetic is exact.

`toFloat` is the way back, from decimal digits to the nearest `Float`, and `integer?` the integer that
a `Float` is.
-/

namespace Harvest.Decimal

/-- A decimal number `digits * 10 ^ exponent`. -/
structure Number where
  /-- The significant digits, as one natural number. -/
  digits : Nat
  /-- The power of ten. -/
  exponent : Int
  deriving Repr, DecidableEq

/-- The parts of a finite positive `Float`: `mantissa * 2 ^ exponent`. -/
structure Binary where
  /-- The significant bits, as one natural number. -/
  mantissa : Nat
  /-- The power of two. -/
  exponent : Int
  /-- Whether the next smaller `Float` is only half as far away as the next larger one. -/
  narrow : Bool
  deriving Repr, DecidableEq

/-- The parts of a finite `Float`, its sign left aside. -/
def binary (x : Float) : Binary :=
  let bits := x.toBits.toNat
  let fraction : Nat := bits % Nat.pow 2 52
  let exponent : Nat := bits / Nat.pow 2 52 % Nat.pow 2 11
  if exponent = 0 then ⟨fraction, -1074, false⟩
  else ⟨Nat.pow 2 52 + fraction, (exponent : Int) - 1075, fraction == 0 && 1 < exponent⟩

/-- Four times the number, over a common denominator, with the bounds of the reals that round to
it: the value, the lower and the upper bound, and the denominator. -/
structure Interval where
  /-- The number itself. -/
  value : Nat
  /-- The lower end. -/
  low : Nat
  /-- The upper end. -/
  high : Nat
  /-- What the three numerators are divided by. -/
  denominator : Nat
  /-- Whether the ends belong to the interval. -/
  closed : Bool

/-- The reals that round to a number: halfway to each neighbour, ends included when the mantissa is
even. -/
def Binary.interval (b : Binary) : Interval :=
  let scale := Nat.pow 2 b.exponent.toNat
  { value := 4 * b.mantissa * scale
    low := (4 * b.mantissa - if b.narrow then 1 else 2) * scale
    high := (4 * b.mantissa + 2) * scale
    denominator := 4 * Nat.pow 2 (-b.exponent).toNat
    closed := b.mantissa % 2 == 0 }

/-- Whether `digits * 10 ^ exponent` lies in the interval. -/
def Interval.holds (i : Interval) (digits : Nat) (exponent : Int) : Bool :=
  let point := digits * Nat.pow 10 exponent.toNat * i.denominator
  let scale := Nat.pow 10 (-exponent).toNat
  if i.closed then i.low * scale ≤ point && point ≤ i.high * scale
  else i.low * scale < point && point < i.high * scale

/-- The neighbours of the number on the grid of a power of ten: the largest multiple that is not
above it, and twice the distance to it in units of the grid compared with one. -/
def Interval.floor (i : Interval) (exponent : Int) : Nat × Ordering :=
  let numerator := i.value * Nat.pow 10 (-exponent).toNat
  let unit := i.denominator * Nat.pow 10 exponent.toNat
  (numerator / unit, compare (2 * (numerator % unit)) unit)

/-- The decimal of the interval on the grid of a power of ten: the nearer neighbour of the number,
of two equally near ones the even one, if it lies in the interval, and else the other. -/
def Interval.onGrid (i : Interval) (exponent : Int) : Option Number :=
  let (below, half) := i.floor exponent
  let above := below + 1
  let belowFirst :=
    match half with
    | .lt => true
    | .gt => false
    | .eq => below % 2 == 0
  let candidates := if belowFirst then [below, above] else [above, below]
  (candidates.find? fun d => i.holds d exponent).map fun d => ⟨d, exponent⟩

/-- The power of ten of the leading digit of a positive number. -/
def Binary.magnitude (b : Binary) : Int :=
  let scaled :=
    b.mantissa * Nat.pow 2 b.exponent.toNat * Nat.pow 10 400 / Nat.pow 2 (-b.exponent).toNat
  ((Nat.toDigits 10 scaled).length : Int) - 401

/-- The decimal without the zeros at its end. -/
def Number.strip (n : Number) : Number :=
  let zeros := ((Nat.toDigits 10 n.digits).reverse.takeWhile (· == '0')).length
  ⟨n.digits / Nat.pow 10 zeros, n.exponent + zeros⟩

/-- The shortest decimal that rounds to a finite positive `Float`, the nearest of those. -/
def shortest (x : Float) : Number :=
  let b := binary x
  if b.mantissa = 0 then ⟨0, 0⟩
  else
    let grids := (List.range 17).map fun (n : Nat) => b.magnitude - n
    ((grids.findSome? b.interval.onGrid).getD ⟨b.mantissa, 0⟩).strip

/-- The integer that a `Float` is, if it is one. -/
def integer? (x : Float) : Option Int :=
  if x.isNaN || x.isInf then none
  else
    let b := binary x
    let unit := Nat.pow 2 (-b.exponent).toNat
    let size : Nat := b.mantissa * Nat.pow 2 b.exponent.toNat / unit
    if b.mantissa % unit ≠ 0 then none
    else if x.toBits.toNat / Nat.pow 2 63 = 1 then some (-(size : Int)) else some size

/-- The `Float` nearest to a decimal; beyond the largest `Float` it is infinite. -/
def toFloat (n : Number) : Float :=
  let size := ((Nat.toDigits 10 n.digits).length : Int) + n.exponent
  if n.digits = 0 || size < -400 then 0.0
  else if 400 < size then 1.0 / 0.0
  else if n.exponent < 0 then Float.ofScientific n.digits true n.exponent.natAbs
  else Float.ofScientific n.digits false n.exponent.natAbs

end Harvest.Decimal
