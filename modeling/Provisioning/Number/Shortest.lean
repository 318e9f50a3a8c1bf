/-!
The shortest decimal that reads back as a given float, written without an exponent.
-/

namespace Provisioning.Number

structure Binary where
  mantissa : Nat
  exponent : Int

def Binary.ofBits (bits : UInt64) : Binary :=
  let fraction := bits.toNat % Nat.pow 2 52
  let level : Nat := bits.toNat / Nat.pow 2 52 % Nat.pow 2 11
  if level = 0 then ⟨fraction, -1074⟩ else ⟨fraction + Nat.pow 2 52, (level : Int) - 1075⟩

structure Ratio where
  above : Nat
  below : Nat

def Binary.ratio (binary : Binary) : Ratio :=
  if 0 ≤ binary.exponent then
    ⟨binary.mantissa * Nat.pow 2 binary.exponent.toNat, 1⟩
  else
    ⟨binary.mantissa, Nat.pow 2 binary.exponent.natAbs⟩

def Ratio.shift (ratio : Ratio) (place : Int) : Ratio :=
  if 0 ≤ place then
    { ratio with below := ratio.below * Nat.pow 10 place.toNat }
  else
    { ratio with above := ratio.above * Nat.pow 10 place.natAbs }

def Ratio.firstPlace (ratio : Ratio) : Int :=
  let guess : Int :=
    (Nat.toDigits 10 ratio.above).length - (Nat.toDigits 10 ratio.below).length
  let scaled := ratio.shift guess
  if scaled.above < scaled.below then guess - 1 else guess

structure Decimal where
  digits : Nat
  place : Int

def Decimal.toFloat (decimal : Decimal) : Float :=
  Float.ofScientific decimal.digits (decimal.place < 0) decimal.place.natAbs

/-- The nearer of the two neighbours with `count` digits that read back as `number`. -/
def neighbour? (number : Float) (ratio : Ratio) (count : Nat) : Option Decimal :=
  let place := ratio.firstPlace - (count - 1 : Nat)
  let scaled := ratio.shift place
  let floor := scaled.above / scaled.below
  let near := if (2 * floor + 1) * scaled.below < 2 * scaled.above then
      [floor + 1, floor]
    else
      [floor, floor + 1]
  (near.map fun digits => ⟨digits, place⟩).find? fun decimal : Decimal =>
    decimal.toFloat.toBits == number.toBits

/-- Seventeen digits always read back. -/
def digitCounts : List Nat :=
  (List.range 17).map (· + 1)

def shortest (number : Float) : Decimal :=
  let ratio := (Binary.ofBits number.toBits).ratio
  (digitCounts.findSome? (neighbour? number ratio)).getD ⟨0, 0⟩

def Decimal.text (decimal : Decimal) : String :=
  let digits := Nat.toDigits 10 decimal.digits
  if 0 ≤ decimal.place then
    String.ofList (digits ++ List.replicate decimal.place.toNat '0')
  else
    let size := decimal.place.natAbs
    let padded := List.replicate (size + 1 - digits.length) '0' ++ digits
    let whole := padded.length - size
    String.ofList (padded.take whole ++ '.' :: padded.drop whole)

def floatText (number : Float) : String :=
  if number.isNaN then "NaN"
  else
    let negative := Nat.pow 2 63 ≤ number.toBits.toNat
    let size := if negative then -number else number
    let text :=
      if size.isInf then "inf" else if size == 0.0 then "0" else (shortest size).text
    if negative then "-" ++ text else text

end Provisioning.Number
