/-!
# The double nearest a decimal

`nearestDouble negative digits exponent` is the double nearest to `digits · 10^exponent`, ties
going to the even significand, or none when the value rounds past the largest finite double.

The value is the fraction `num / den` of two naturals. Scaling by a power of two puts the
quotient in `[2^52, 2^53)` (or leaves it below `2^52` at the least exponent, where doubles are
subnormal); the remainder then decides the rounding exactly. Values too far from one to matter
are settled from the number of digits alone, so the arithmetic stays small.
-/

namespace LiveSession.Decimal

/-- The number of binary digits of `n`. -/
def bitLength (n : Nat) : Nat := if n = 0 then 0 else Nat.log2 n + 1

/-- The least binary exponent of a double. -/
def leastExponent : Int := -1074

/-- `num / den · 2^(-k)` split into quotient and whether the remainder is below, at or above
one half. -/
def scaledQuotient (num den : Nat) (k : Int) : Nat × Ordering :=
  let (n, d) := if k ≤ 0 then (num * Nat.pow 2 (-k).toNat, den) else (num, den * Nat.pow 2 k.toNat)
  (n / d, compare (2 * (n % d)) d)

/-- The bits of a double `m · 2^k` with `m < 2^53`, a normal `m ≥ 2^52` or the least `k`. -/
def bitsOf (negative : Bool) (m : Nat) (k : Int) : UInt64 :=
  let sign : UInt64 := if negative then (1 : UInt64) <<< 63 else 0
  if m < 4503599627370496 then sign ||| m.toUInt64
  else sign ||| ((k + 1075).toNat.toUInt64 <<< 52) ||| (m - 4503599627370496).toUInt64

/-- The double nearest `num / den` (both positive), or none past the largest double. -/
def nearestFraction (negative : Bool) (num den : Nat) : Option Float :=
  let guess : Int := (bitLength num : Int) - bitLength den - 53
  let k0 := max guess leastExponent
  -- The quotient at `k0` has 53 or 54 bits (or fewer at the least exponent).
  let k := if (scaledQuotient num den k0).1 ≥ 9007199254740992 then k0 + 1 else k0
  let k := if k > leastExponent && (scaledQuotient num den k).1 < 4503599627370496 then k - 1 else k
  let (q, half) := scaledQuotient num den k
  let up := half == .gt || (half == .eq && q % 2 == 1)
  let (m, k) := if up then (if q + 1 = 9007199254740992 then (4503599627370496, k + 1) else (q + 1, k)) else (q, k)
  if k + 52 > 1023 then none else some (Float.ofBits (bitsOf negative m k))

/-- The double nearest `digits · 10^exponent`, or none when it rounds past the largest
double. -/
def nearestDouble (negative : Bool) (digits : Nat) (exponent : Int) : Option Float :=
  let zero := Float.ofBits (if negative then (1 : UInt64) <<< 63 else 0)
  if digits = 0 then some zero
  else
    let size : Int := (Nat.toDigits 10 digits).length
    if size + exponent > 311 then none
    else if size + exponent < -345 then some zero
    else if exponent ≥ 0 then nearestFraction negative (digits * Nat.pow 10 exponent.toNat) 1
    else nearestFraction negative digits (Nat.pow 10 (-exponent).toNat)

end LiveSession.Decimal
