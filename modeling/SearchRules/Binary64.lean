/-!
# Finite double-precision numbers

A number with a fraction or an exponent is kept as a double of 64 bits. Only
finite ones occur, so a value is its sign and its magnitude, the lower 63 bits
read as a natural number. Magnitudes are ordered as the numbers they stand for,
and one step of the magnitude is one step to the next double; rounding can
therefore count steps, and a carry into the next power of two needs no case of
its own.

Everything is exact arithmetic on naturals, and `nearest?` rounds a fraction to
the nearest double, the even one of two that are equally near. Two ways lead from
a decimal to a double, and they are not the same.

> `ofDecimal?` takes a decimal to the nearest double.
>
> `readDecimal?` is the way of a reader that does not look for it: the digits
> become a double, and that is multiplied or divided by a power of ten, with a
> rounding at every step. What comes out can be a unit off the nearest double, as
> for `0.00021659939713061338`.

A double is written with the fewest digits for which it is the nearest double, and
with the nearest such digits. The search follows that sentence: for one, two, …
seventeen digits it takes the two decimals next to the exact value, the nearer one
first, and stops at the first whose nearest double is the given one.

The layout is that of compact data text: positional while the first digit
stands between the fifth place after the point and the sixteenth before it, and
otherwise one digit, the others after a point, and a signed exponent.
-/

namespace SearchRules

/-- A non-negative decimal: `digits` times ten to the `exponent`. -/
structure Decimal where
  /-- The digits as one natural number. -/
  digits : Nat
  /-- The power of ten that the last digit counts. -/
  exponent : Int
deriving DecidableEq

/-- How many decimal digits `n` is written with. -/
def digitCount (n : Nat) : Nat := (Nat.toDigits 10 n).length

/-- The natural number nearest to `num / den`; of two equally near ones the even. -/
def roundHalfEven (num den : Nat) : Nat :=
  let quotient := num / den
  let twice := 2 * (num % den)
  if twice < den then quotient
  else if den < twice then quotient + 1
  else quotient + quotient % 2

/-- The magnitude of infinity: the exponent bits are all ones. -/
def infinityMagnitude : Nat := 0x7ff0000000000000

/-- The bit above the fifty-two bits of a fraction. -/
def leadingBit : Nat := 0x10000000000000

/-- A finite double: a sign and a magnitude below that of infinity. -/
structure Binary64 where
  /-- The sign bit. -/
  negative : Bool
  /-- The other 63 bits: eleven of exponent above fifty-two of fraction. -/
  magnitude : Nat
  /-- The number is not infinite. -/
  finite : magnitude < infinityMagnitude
deriving DecidableEq

namespace Binary64

/-- Zero of either sign. -/
def zero (negative : Bool) : Binary64 := ⟨negative, 0, by decide⟩

/-- Whether the number is zero, of either sign. -/
def isZero (x : Binary64) : Bool := x.magnitude == 0

/-- Equality of the numbers: the two zeros are one number. -/
def equiv (x y : Binary64) : Bool := (x.isZero && y.isZero) || x == y

theorem equiv_refl (x : Binary64) : x.equiv x = true := by simp [equiv]

/-- The absolute value of `x` is `significand x` times two to the `scale x`. The
leading bit is one unless the exponent bits are all zero. -/
def significand (x : Binary64) : Nat :=
  if x.magnitude < leadingBit then x.magnitude else leadingBit + x.magnitude % leadingBit

/-- The power of two that the last bit of the significand counts. -/
def scale (x : Binary64) : Int := (max (x.magnitude / leadingBit) 1 : Nat) - 1075

/-- The absolute value of `x` as a decimal, without rounding: half a unit is five
tenths. -/
def exact (x : Binary64) : Decimal :=
  if 0 ≤ x.scale then ⟨x.significand <<< x.scale.toNat, 0⟩
  else ⟨x.significand * Nat.pow 5 (-x.scale).toNat, x.scale⟩

/-- The greatest `t` for which two to the `t` is at most `num / den`, for positive
`num` and `den`. -/
def floorLogRatio (num den : Nat) : Int :=
  let guess : Int := (num.log2 : Int) - (den.log2 : Int)
  if den <<< guess.toNat ≤ num <<< (-guess).toNat then guess else guess - 1

/-- The magnitude nearest to `num / den`, as if there were no largest exponent.
The significand gets fifty-three bits, fewer next to zero. A significand that
rounds up to the next power of two is a magnitude all the same. -/
def nearestMagnitude (num den : Nat) : Nat :=
  let scale : Int := max (floorLogRatio num den - 52) (-1074)
  let significand := roundHalfEven (num <<< (-scale).toNat) (den <<< scale.toNat)
  (scale + 1074).toNat * leadingBit + significand

/-- The double of the given sign nearest to `num / den`, or nothing if that is
infinite. -/
def nearest? (negative : Bool) (num den : Nat) : Option Binary64 :=
  if num = 0 then some (zero negative)
  else
    let magnitude := nearestMagnitude num den
    if finite : magnitude < infinityMagnitude then some ⟨negative, magnitude, finite⟩
    else none

/-! ## From a decimal to a double -/

/-- The double nearest to a decimal with the given sign, or nothing if that is
infinite. A decimal far above the largest double or far below the smallest is
settled by the place of its first digit, before its power of ten is formed. -/
def ofDecimal? (negative : Bool) (d : Decimal) : Option Binary64 :=
  let top : Int := digitCount d.digits + d.exponent
  if d.digits = 0 ∨ top < -323 then some (zero negative)
  else if 310 < top then none
  else
    nearest? negative (d.digits * Nat.pow 10 d.exponent.toNat) (Nat.pow 10 (-d.exponent).toNat)

/-- The absolute value of `x` as a fraction, numerator and denominator. -/
def fraction (x : Binary64) : Nat × Nat :=
  (x.significand <<< x.scale.toNat, 1 <<< (-x.scale).toNat)

/-- The product of two doubles, rounded; nothing if that is infinite. -/
def mul? (x y : Binary64) : Option Binary64 :=
  let (a, b) := x.fraction
  let (c, d) := y.fraction
  nearest? (x.negative != y.negative) (a * c) (b * d)

/-- The quotient of a double and another that is not zero, rounded; nothing if
that is infinite. -/
def div? (x y : Binary64) : Option Binary64 :=
  let (a, b) := x.fraction
  let (c, d) := y.fraction
  nearest? (x.negative != y.negative) (a * d) (b * c)

/-- The double nearest to ten to the `n`; there is none above 308. -/
def powerOfTen? (n : Nat) : Option Binary64 := ofDecimal? false ⟨1, n⟩

/-- Multiply by ten to the `n`, in one step. Zero stays zero. -/
def timesPowerOfTen? (x : Binary64) (n : Nat) : Option Binary64 :=
  if x.isZero then some x else powerOfTen? n >>= x.mul?

/-- Divide by ten to the `n`, by the greatest power of ten there is as long as
that is not enough. -/
def overPowerOfTen? (x : Binary64) (n : Nat) : Option Binary64 :=
  if n ≤ 308 then powerOfTen? n >>= x.div?
  else if x.isZero then some x
  else do
    let y ← powerOfTen? 308 >>= x.div?
    y.overPowerOfTen? (n - 308)
termination_by n

/-- The double that is read from a decimal with the given sign: its digits as a
double, times or over a power of ten. -/
def readDecimal? (negative : Bool) (d : Decimal) : Option Binary64 := do
  let x ← nearest? negative d.digits 1
  if 0 ≤ d.exponent then x.timesPowerOfTen? d.exponent.toNat
  else x.overPowerOfTen? (-d.exponent).toNat

end Binary64

/-! ## The shortest decimal of a double -/

/-- The two decimals of `n` digits around `d`, the nearer one first and of two
equally near ones the even one; `d` itself comes first if it has no more digits
than that. -/
def Decimal.neighbours (d : Decimal) (n : Nat) : List Decimal :=
  let surplus := digitCount d.digits - n
  let grid := Nat.pow 10 surplus
  let below : Decimal := ⟨d.digits / grid, d.exponent + surplus⟩
  let above : Decimal := ⟨d.digits / grid + 1, d.exponent + surplus⟩
  if roundHalfEven d.digits grid = below.digits then [below, above] else [above, below]

namespace Binary64

/-- The decimals that are tried for `x`, in the order of preference. -/
def candidates (x : Binary64) : List Decimal :=
  (List.range' 1 17).flatMap x.exact.neighbours

/-- The decimal that stands for the absolute value of `x`: the first candidate
whose nearest double is `x`. Seventeen digits are always enough; the exact value
stands in for the case that does not arise. -/
def shortest (x : Binary64) : Decimal :=
  (x.candidates.find? fun d => ofDecimal? x.negative d == some x).getD x.exact

/-- Digits without the zeros at their end. -/
def trimZeros (digits : List Char) : List Char :=
  (digits.reverse.dropWhile (· == '0')).reverse

/-- Lay out digits, without zeros at their end, whose first has the place
`place`: `0` is the place of the units. -/
def layout (digits : List Char) (place : Int) : List Char :=
  let zeros (n : Int) : List Char := List.replicate n.toNat '0'
  if -5 ≤ place ∧ place < 16 then
    if place < 0 then
      '0' :: '.' :: (zeros (-place - 1) ++ digits)
    else
      let whole := place.toNat + 1
      let fraction := digits.drop whole
      (digits.take whole ++ zeros (whole - digits.length)) ++
        '.' :: (if fraction.isEmpty then ['0'] else fraction)
  else
    let sign := if place < 0 then '-' else '+'
    digits.take 1 ++ (if digits.length ≤ 1 then [] else '.' :: digits.drop 1) ++
      'e' :: sign :: Nat.toDigits 10 place.natAbs

/-- The text of a double: `0.0`, `-2.5`, `1e+16`. -/
def render (x : Binary64) : List Char :=
  let sign := if x.negative then ['-'] else []
  if x.isZero then sign ++ ['0', '.', '0']
  else
    let d := x.shortest
    let digits := Nat.toDigits 10 d.digits
    sign ++ layout (trimZeros digits) (d.exponent + digits.length - 1)

end Binary64

end SearchRules
