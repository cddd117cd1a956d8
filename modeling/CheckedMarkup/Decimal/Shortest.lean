import CheckedMarkup.Decimal.Binary

/-! # Shortest decimal text of a floating-point number

A number is written with the fewest digits that read back as the same number.
Of several such decimals the nearest is taken, and of two equally near ones the
larger. The text is always positional: there is no exponent, and a whole number
has no point.
-/

namespace CheckedMarkup.Decimal

/-- The decimal `digits * 10 ^ shift`, counted in units of the last place that the format has. -/
structure Scaled where
  digits : Nat
  shift : Nat
deriving Repr, DecidableEq

/-- The numbers that round to `value`, all over the denominator `unit`. -/
structure Interval where
  low : Nat
  value : Nat
  high : Nat
  /-- Whether the ends round to the value too. -/
  closed : Bool
  unit : Nat

def Interval.holds (interval : Interval) (numerator : Nat) : Bool :=
  if interval.closed then interval.low ≤ numerator && numerator ≤ interval.high
  else interval.low < numerator && numerator < interval.high

/-- The multiple of `step` in the interval that is nearest to its value, a tie going up. -/
def Interval.multiple? (interval : Interval) (step : Nat) : Option Nat :=
  let below := interval.value / step
  let rest := interval.value % step
  match interval.holds (below * step), interval.holds ((below + 1) * step) with
  | true, true => some (if 2 * rest < step then below else below + 1)
  | true, false => some below
  | false, true => some (below + 1)
  | false, false => none

/-- The decimal on the coarsest grid, at most `10 ^ shift`, that meets the interval. -/
def Interval.coarsest (interval : Interval) : (shift : Nat) → Scaled
  | 0 => ⟨interval.value / interval.unit, 0⟩
  | shift + 1 =>
      match interval.multiple? (Nat.pow 10 (shift + 1) * interval.unit) with
      | some digits => ⟨digits, shift + 1⟩
      | none => interval.coarsest shift

theorem Interval.holds_of_multiple? {interval : Interval} {step digits : Nat}
    (h : interval.multiple? step = some digits) : interval.holds (digits * step) = true := by
  simp only [multiple?] at h
  split at h <;> simp only [Option.some.injEq, reduceCtorEq] at h
  next hbelow habove => split at h <;> subst h <;> assumption
  next hbelow habove => subst h; assumption
  next hbelow habove => subst h; assumption

/-- The numbers that read back as `significand` at `steps`, scaled so that every number of the
format is whole. The gap below the first significand of a binade is half as wide. -/
def Format.interval (format : Format) (significand steps : Nat) : Interval :=
  let scale := Nat.pow 10 format.leastPlaces * Nat.pow 2 steps
  let gap := if significand = format.binade && steps != 0 then 1 else 2
  { low := (4 * significand - gap) * scale
    value := 4 * significand * scale
    high := (4 * significand + 2) * scale
    closed := significand % 2 == 0
    unit := 4 * Nat.pow 2 format.leastPlaces }

/-- The shortest decimal that reads back as a positive number of the format. -/
def Format.shortest (format : Format) (significand steps : Nat) : Scaled :=
  let interval := format.interval significand steps
  interval.coarsest (Nat.toDigits 10 (interval.value / interval.unit)).length

/-- The decimal `digits * 10 ^ shift / 10 ^ places` written out: zeros are added at the end, or a
point is set, as the larger of the two powers demands. -/
def positional (digits : List Char) (shift places : Nat) : List Char :=
  if places ≤ shift then digits ++ List.replicate (shift - places) '0'
  else
    let fractional := places - shift
    let padded := List.replicate (fractional + 1 - digits.length) '0' ++ digits
    let whole := padded.length - fractional
    padded.take whole ++ '.' :: padded.drop whole

def Format.text (format : Format) : Binary → String
  | .notANumber => "NaN"
  | .infinite negative => if negative then "-inf" else "inf"
  | .finite negative significand steps =>
      let sign := if negative then ['-'] else []
      if significand = 0 then String.ofList (sign ++ ['0'])
      else
        let decimal := format.shortest significand steps
        String.ofList (sign ++
          positional (Nat.toDigits 10 decimal.digits) decimal.shift format.leastPlaces)

def floatText (x : Float) : String :=
  Format.double.text (Format.double.decode x.toBits.toNat)

def float32Text (x : Float32) : String :=
  Format.single.text (Format.single.decode x.toBits.toNat)

end CheckedMarkup.Decimal
