namespace TypedTemplate.Numeral

def ofDigits (digits : List Char) : Nat :=
  digits.foldl (fun value digit => 10 * value + (digit.toNat - '0'.toNat)) 0

def natural? (digits : List Char) : Option Nat :=
  if digits.isEmpty || !digits.all Char.isDigit then none else some (ofDigits digits)

def signed : List Char → Bool × List Char
  | '-' :: rest => (true, rest)
  | '+' :: rest => (false, rest)
  | unsigned => (false, unsigned)

def integerLimit : Nat := 1 <<< 63

def integer? (text : List Char) : Option Int :=
  match signed text with
  | (negative, digits) =>
    match natural? digits with
    | none => none
    | some magnitude =>
      if negative then (if magnitude ≤ integerLimit then some (-magnitude) else none)
      else if magnitude < integerLimit then some magnitude else none

-- Decimal numerals with a fraction or an exponent, read as the nearest number of
-- the binary64 format. All arithmetic is exact until the one rounding.

def roundHalfEven (numerator denominator : Nat) : Nat :=
  let quotient := numerator / denominator
  let twice := 2 * (numerator % denominator)
  if twice < denominator then quotient
  else if denominator < twice then quotient + 1
  else quotient + quotient % 2

def floorLog2 (numerator denominator : Nat) : Int :=
  let estimate : Int := numerator.log2 - denominator.log2
  if numerator <<< (-estimate).toNat < denominator <<< estimate.toNat then estimate - 1 else estimate

-- The format: 52 fraction bits, and 2^-1074 as the smallest step.
def fractionBits : Nat := 52
def smallestStep : Int := -1074
def infinityBits : Nat := 0x7ff <<< fractionBits
def signBit : Nat := 1 <<< 63

-- The bits of a ratio that is not negative. The step is the one that leaves 53
-- significant bits, so that a rounding up to the next power of two carries from the
-- fraction into the exponent, and one past the largest number ends at infinity.
def magnitudeBits (numerator denominator : Nat) : Nat :=
  if numerator = 0 then 0
  else
    let step := max (floorLog2 numerator denominator - fractionBits) smallestStep
    let rounded := roundHalfEven (numerator <<< (-step).toNat) (denominator <<< step.toNat)
    min ((step - smallestStep).toNat <<< fractionBits + rounded) infinityBits

structure Decimal where
  negative : Bool
  coefficient : Nat
  exponent : Int
deriving DecidableEq

-- Far outside the range of the format the power of ten need not be formed.
def Decimal.bits (decimal : Decimal) : UInt64 :=
  let places : Int := (Nat.toDigits 10 decimal.coefficient).length + decimal.exponent
  let magnitude :=
    if decimal.coefficient = 0 ∨ places < -400 then 0
    else if 400 < places then infinityBits
    else magnitudeBits (decimal.coefficient * Nat.pow 10 decimal.exponent.toNat) (Nat.pow 10 (-decimal.exponent).toNat)
  .ofNat (magnitude + if decimal.negative then signBit else 0)

def exponent? : List Char → Option Int
  | [] => some 0
  | mark :: rest =>
    if mark = 'e' ∨ mark = 'E' then
      match signed rest with
      | (negative, digits) => (natural? digits).map fun power => if negative then -power else power
    else none

def decimal? (text : List Char) : Option Decimal :=
  match signed text with
  | (negative, unsigned) =>
    let whole := unsigned.takeWhile Char.isDigit
    let afterWhole := unsigned.dropWhile Char.isDigit
    let (fraction, rest) := match afterWhole with
      | '.' :: tail => (tail.takeWhile Char.isDigit, tail.dropWhile Char.isDigit)
      | tail => ([], tail)
    if whole.isEmpty && fraction.isEmpty then none
    else (exponent? rest).map fun power =>
      ⟨negative, ofDigits (whole ++ fraction), power - fraction.length⟩

def binary64? (text : List Char) : Option UInt64 := (decimal? text).map Decimal.bits

example : binary64? "1.5".toList = some 0x3ff8000000000000 := by decide +kernel
example : binary64? "4.9e-324".toList = some 1 := by decide +kernel
example : binary64? "2.4703282292062327e-324".toList = some 0 := by decide +kernel
example : binary64? "1.7976931348623157e308".toList = some 0x7fefffffffffffff := by decide +kernel
example : binary64? "1.7976931348623159e308".toList = some 0x7ff0000000000000 := by decide +kernel

end TypedTemplate.Numeral
