import TradeSpeech.Decimal.Binary

/-! Decimal text of a number. Of all decimals that read back as the number, the
text shows one with the fewest digits, and of those the nearest; it never uses
an exponent. -/

namespace TradeSpeech.Decimal

/-- The point of the grid of multiples of `10 ^ place` that stands for a
number: a point that reads back as the number, and of two neighbours that both
do the nearer one. Of two equally near points the upper one is taken.

The numbers that read back form an interval around the value, whose ends lie
half a gap away and belong to it when the significand is even. All comparisons
are made in quarters of a gap, because the gap below a power of two is half the
gap above it. -/
def gridPoint? (magnitude : Magnitude) (place : Int) : Option Nat :=
  let quarters := 4 * magnitude.significand
  let scale := Nat.pow 2 (magnitude.exponent - 2).toNat * Nat.pow 10 (-place).toNat
  let unit := Nat.pow 2 (2 - magnitude.exponent).toNat * Nat.pow 10 place.toNat
  let low := (quarters - if magnitude.significand = fractionCount then 1 else 2) * scale
  let high := (quarters + 2) * scale
  let readsBack (point : Nat) : Bool :=
    if magnitude.significand % 2 = 0 then
      low ≤ point * unit && point * unit ≤ high
    else
      low < point * unit && point * unit < high
  let below := quarters * scale / unit
  let above := below + 1
  match readsBack below, readsBack above with
  | true, true =>
    if 2 * (quarters * scale) < (below + above) * unit then some below else some above
  | true, false => some below
  | false, true => some above
  | false, false => none

def leadingPlace (magnitude : Magnitude) : Int :=
  ((magnitude.significand.log2 : Int) + 1 + magnitude.exponent) * 30103 / 100000 + 1

def coarsest? (magnitude : Magnitude) : (count : Nat) → (place : Int) → Option (Nat × Int)
  | 0, _ => none
  | count + 1, place =>
    match gridPoint? magnitude place with
    | some digits => some (digits, place)
    | none => coarsest? magnitude count (place - 1)

/-- The digits of a positive number and the place of the last of them.
Seventeen digits always read back, so the twenty grids tried do not run out;
beyond them the exact value would be given. -/
def shortest (magnitude : Magnitude) : Nat × Int :=
  match coarsest? magnitude 20 (leadingPlace magnitude) with
  | some found => found
  | none =>
    (magnitude.significand * Nat.pow 2 magnitude.exponent.toNat *
        Nat.pow 5 (-magnitude.exponent).toNat,
      min 0 magnitude.exponent)

def positional (digits : Nat) (place : Int) : String :=
  let figures := Nat.toDigits 10 digits
  if 0 ≤ place then
    String.ofList (figures ++ List.replicate place.toNat '0')
  else
    let behind := (-place).toNat
    let padded := List.replicate (behind + 1 - figures.length) '0' ++ figures
    let front := padded.length - behind
    String.ofList (padded.take front ++ '.' :: padded.drop front)

def text (number : Float) : String :=
  match parts number with
  | .notANumber => "NaN"
  | .infinite negative => if negative then "-inf" else "inf"
  | .finite negative magnitude =>
    let figures :=
      if magnitude.significand = 0 then "0"
      else
        let (digits, place) := shortest magnitude
        positional digits place
    if negative then "-" ++ figures else figures

example : text 195.5 = "195.5" := by decide +kernel

example : text 17 = "17" := by decide +kernel

example : text (-0.0) = "-0" := by decide +kernel

example : text (nearest false 1 21) = "1000000000000000000000" := by decide +kernel

/-- The end of an interval belongs to it when the significand is even. -/
example : text (nearest false 1 23) = "100000000000000000000000" := by decide +kernel

/-- Two candidates of seventeen digits are equally near: the upper one is taken. -/
example : text (Float.ofBits 0x3E60000000000000) = "0.000000029802322387695313" := by
  decide +kernel

end TradeSpeech.Decimal
