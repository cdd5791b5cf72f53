/-! The binary numbers that prices are kept in, taken apart and put together
exactly. -/

namespace TradeSpeech.Decimal

structure Magnitude where
  significand : Nat
  exponent : Int
  deriving DecidableEq, Repr

inductive Parts
  | notANumber
  | infinite (negative : Bool)
  | finite (negative : Bool) (magnitude : Magnitude)
  deriving DecidableEq, Repr

def fractionCount : Nat := Nat.pow 2 52

def infiniteBits : Nat := 2047 * fractionCount

def signPlace : Nat := Nat.pow 2 63

def parts (number : Float) : Parts :=
  let code := number.toBits.toNat
  let negative := decide (signPlace ≤ code)
  let field := code % signPlace / fractionCount
  let fraction := code % fractionCount
  if field = 2047 then
    if fraction = 0 then .infinite negative else .notANumber
  else if field = 0 then
    -- a subnormal number, whose leading digit is missing
    .finite negative ⟨fraction, -1074⟩
  else
    .finite negative ⟨fractionCount + fraction, field - 1075⟩

def nearestQuotient (numerator denominator : Nat) : Nat :=
  let quotient := numerator / denominator
  let twice := 2 * (numerator % denominator)
  if twice < denominator then quotient
  else if denominator < twice then quotient + 1
  -- halfway between two quotients, the even one
  else quotient + quotient % 2

/-- The bits of the number nearest to `numerator / denominator`, both positive.
A significand that rounds up to twice its least value carries into the exponent
field, and what is beyond the greatest finite number becomes infinite. -/
def nearestBits (numerator denominator : Nat) : Nat :=
  let estimate : Int := (numerator.log2 : Int) - denominator.log2 - 52
  let fits (exponent : Int) : Bool :=
    fractionCount * Nat.pow 2 exponent.toNat * denominator ≤
      numerator * Nat.pow 2 (-exponent).toNat
  let exponent := max (-1074) (if fits estimate then estimate else estimate - 1)
  let significand :=
    nearestQuotient (numerator * Nat.pow 2 (-exponent).toNat)
      (denominator * Nat.pow 2 exponent.toNat)
  min infiniteBits ((exponent + 1074).toNat * fractionCount + significand)

def ofMagnitudeBits (negative : Bool) (code : Nat) : Float :=
  Float.ofBits (UInt64.ofNat (if negative then signPlace + code else code))

/-- The number nearest to `digits * 10 ^ exponent`, with a sign. An exponent so
great or so small that it decides the result alone is not expanded. -/
def nearest (negative : Bool) (digits : Nat) (exponent : Int) : Float :=
  ofMagnitudeBits negative <|
    if digits = 0 then 0
    else if 400 < exponent then infiniteBits
    else if (digits.log2 : Int) + 3 * exponent < -1100 then 0
    else nearestBits (digits * Nat.pow 10 exponent.toNat) (Nat.pow 10 (-exponent).toNat)

example : (nearest false 1 0).toBits = 0x3FF0000000000000 := by decide

example : (nearest false 1 (-1)).toBits = 0x3FB999999999999A := by decide

/-- Halfway between two numbers the even significand is taken. -/
example : (nearest false 9007199254740993 0).toBits = 0x4340000000000000 := by decide

example : nearest true 0 5 = -0.0 ∧ (nearest true 0 5).toBits = 0x8000000000000000 := by decide

example : parts (nearest true 2 999) = .infinite true := by decide

example : parts 1.5 = .finite false ⟨3 * 2 ^ 51, -52⟩ := by decide

end TradeSpeech.Decimal
