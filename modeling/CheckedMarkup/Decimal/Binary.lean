/-! # Binary floating-point formats

A finite number of a format is a significand times a power of two. The two
formats in use are `double` and `single`; everything here is exact arithmetic
on natural numbers and holds of any format.
-/

namespace CheckedMarkup.Decimal

/-- A format with `precision` significant bits and an exponent field of `exponentBits`. -/
structure Format where
  precision : Nat
  exponentBits : Nat
deriving Repr, DecidableEq

namespace Format

def double : Format := ⟨53, 11⟩

def single : Format := ⟨24, 8⟩

/-- The number of distinct significands with one exponent. -/
def binade (format : Format) : Nat := Nat.pow 2 (format.precision - 1)

/-- The value of the exponent field that marks infinity and no number. -/
def specialExponent (format : Format) : Nat := Nat.pow 2 format.exponentBits - 1

/-- Every finite number of the format is a multiple of `2 ^ -leastPlaces`. -/
def leastPlaces (format : Format) : Nat :=
  Nat.pow 2 (format.exponentBits - 1) - 2 + (format.precision - 1)

end Format

/-- What the bits of a format stand for. The finite number is
`significand * 2 ^ steps / 2 ^ format.leastPlaces`, with its sign. -/
inductive Binary where
  | notANumber
  | infinite (negative : Bool)
  | finite (negative : Bool) (significand steps : Nat)
deriving Repr, DecidableEq

/-- The number that a pattern of bits stands for. -/
def Format.decode (format : Format) (bits : Nat) : Binary :=
  let fraction := bits % format.binade
  let exponent := bits / format.binade % (format.specialExponent + 1)
  let negative := bits / format.binade / (format.specialExponent + 1) % 2 == 1
  if exponent = format.specialExponent then
    if fraction = 0 then .infinite negative else .notANumber
  else if exponent = 0 then .finite negative fraction 0
  else .finite negative (format.binade + fraction) (exponent - 1)

/-- The quotient rounded to the nearest natural number, a half to the even one. -/
def roundToEven (numerator denominator : Nat) : Nat :=
  let whole := numerator / denominator
  let rest := numerator % denominator
  if 2 * rest < denominator then whole
  else if denominator < 2 * rest then whole + 1
  else whole + whole % 2

/-- The bits, without the sign, of the number of the format nearest to a positive quotient.
A tie goes to the even significand; what rounds beyond the largest number becomes infinite. -/
def Format.nearestBits (format : Format) (numerator denominator : Nat) : Nat :=
  let scaled := numerator * Nat.pow 2 format.leastPlaces
  let steps := Nat.log2 (scaled / denominator) + 1 - format.precision
  let significand := roundToEven scaled (denominator * Nat.pow 2 steps)
  min (steps * format.binade + significand) (format.specialExponent * format.binade)

end CheckedMarkup.Decimal
