/-!
# The double nearest to a decimal

`nearest digits exponent` is the double nearest to `digits * 10 ^ exponent`, of two equally near
ones the one with an even significand, and infinity beyond the largest double. The quotient of two
natural numbers is rounded once, so that the result is exact.
-/

namespace ControlDeck.Decimal

/-- The nearest natural number to a quotient; a half goes to the even neighbour. -/
def roundHalfEven (numerator denominator : Nat) : Nat :=
  let below := numerator / denominator
  let rest := 2 * (numerator % denominator)
  if denominator < rest || (rest = denominator && below % 2 = 1) then below + 1 else below

/-- The bits of the double nearest to a positive quotient. The quotient is measured in units of
`2 ^ k`, where `k` leaves 53 binary places or is the least exponent of a double. -/
def nearestBits (numerator denominator : Nat) : UInt64 :=
  let estimate : Int := (numerator.log2 : Int) - denominator.log2 - 53
  let overflows :=
    denominator <<< (estimate + 53).toNat ≤ numerator <<< (-(estimate + 53)).toNat
  let k := max (-1074) (if overflows then estimate + 1 else estimate)
  let significand := roundHalfEven (numerator <<< (-k).toNat) (denominator <<< k.toNat)
  let bits := (k + 1074).toNat <<< 52 + significand
  UInt64.ofNat (min bits (2047 <<< 52))

/-- The double nearest to `digits * 10 ^ exponent`. Exponents far outside the range of doubles are
decided by the size of the decimal alone. -/
def nearest (digits : Nat) (exponent : Int) : Float :=
  let size := exponent + (Nat.toDigits 10 digits).length
  if digits = 0 || size < -330 then 0
  else if 330 < size then Float.ofBits (UInt64.ofNat (2047 <<< 52))
  else
    Float.ofBits
      (nearestBits (digits * Nat.pow 10 exponent.toNat) (Nat.pow 10 (-exponent).toNat))

end ControlDeck.Decimal
