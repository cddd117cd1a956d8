import CheckedMarkup.Decimal.Binary

/-! # Reading decimal numerals

A numeral has an optional sign, digits with an optional point, and an optional
power of ten; `inf`, `infinity` and `nan` are numerals too, in any case. It
stands for the number of the wanted format that is nearest to it.
-/

namespace CheckedMarkup.Decimal

inductive Numeral where
  | notANumber
  | infinite
  /-- The number `significand * 10 ^ exponent`. -/
  | decimal (significand : Nat) (exponent : Int)
deriving Repr, DecidableEq

def digitsValue (digits : List Char) : Nat :=
  digits.foldl (fun value c => 10 * value + (c.toNat - '0'.toNat)) 0

/-- A sign in front of a numeral: whether it is negative, and what follows. -/
def splitSign : List Char → Bool × List Char
  | '-' :: rest => (true, rest)
  | '+' :: rest => (false, rest)
  | rest => (false, rest)

/-- The power of ten at the end of a numeral. Nothing there means zero. -/
def readExponent : List Char → Option Int
  | [] => some 0
  | c :: rest =>
      if c = 'e' ∨ c = 'E' then
        let (negative, digits) := splitSign rest
        if digits ≠ [] ∧ digits.all Char.isDigit then
          some (if negative then -(digitsValue digits : Int) else digitsValue digits)
        else none
      else none

def Numeral.read (text : List Char) : Option Numeral :=
  match String.ofList (text.map Char.toLower) with
  | "nan" => some .notANumber
  | "inf" => some .infinite
  | "infinity" => some .infinite
  | _ =>
      let whole := text.takeWhile Char.isDigit
      let (fraction, rest) := match text.dropWhile Char.isDigit with
        | '.' :: more => (more.takeWhile Char.isDigit, more.dropWhile Char.isDigit)
        | more => ([], more)
      if whole = [] ∧ fraction = [] then none
      else (readExponent rest).map fun exponent =>
        .decimal (digitsValue (whole ++ fraction)) (exponent - fraction.length)

/-- The bits, without the sign, of the number of a format that a numeral stands for. A power of
ten that no number of the format reaches is not computed. -/
def Format.bitsOf (format : Format) : Numeral → Nat
  | .notANumber => format.specialExponent * format.binade + format.binade / 2
  | .infinite => format.specialExponent * format.binade
  | .decimal significand exponent =>
      let reach : Int := Nat.pow 2 format.exponentBits
      let size : Int := exponent + (Nat.toDigits 10 significand).length
      if significand = 0 ∨ size < -reach then 0
      else if reach < size then format.specialExponent * format.binade
      else
        format.nearestBits (significand * Nat.pow 10 exponent.toNat)
          (Nat.pow 10 (-exponent).toNat)

def Format.read (format : Format) (text : String) : Option Nat :=
  let (negative, rest) := splitSign text.toList
  (Numeral.read rest).map fun numeral =>
    (if negative then (format.specialExponent + 1) * format.binade else 0) + format.bitsOf numeral

def readFloat (text : String) : Option Float :=
  (Format.double.read text).map fun bits => Float.ofBits (UInt64.ofNat bits)

def readFloat32 (text : String) : Option Float32 :=
  (Format.single.read text).map fun bits => Float32.ofBits (UInt32.ofNat bits)

end CheckedMarkup.Decimal
