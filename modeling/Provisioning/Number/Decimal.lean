import Provisioning.Number.Integer

/-!
Reading binary floating point numbers from decimal text.
-/

namespace Provisioning.Number

def positiveInfinity : Float := 1.0 / 0.0

def notANumber : Float := 0.0 / 0.0

/-- The float nearest to `mantissa * 10 ^ exponent`. Exponents far outside the range of a float
are answered without computing the power. -/
def nearestFloat (mantissa : Nat) (exponent : Int) : Float :=
  let size : Int := (Nat.toDigits 10 mantissa).length
  if mantissa = 0 then
    0.0
  else if size + exponent > 400 then
    positiveInfinity
  else if size + exponent < -400 then
    0.0
  else
    Float.ofScientific mantissa (exponent < 0) exponent.natAbs

def readExponent? (characters : List Char) : Option Int :=
  match characters with
  | [] => some 0
  | letter :: rest =>
      if letter = 'e' ∨ letter = 'E' then
        match rest with
        | '-' :: digits => (readNat? digits).map fun value => -(value : Int)
        | '+' :: digits => (readNat? digits).map fun value => (value : Int)
        | digits => (readNat? digits).map fun value => (value : Int)
      else
        none

def readDecimal? (characters : List Char) : Option Float :=
  let whole := characters.takeWhile Char.isDigit
  let afterWhole := characters.dropWhile Char.isDigit
  let point := afterWhole.head? == some '.'
  let afterPoint := if point then afterWhole.drop 1 else afterWhole
  let fraction := if point then afterPoint.takeWhile Char.isDigit else []
  let afterFraction := if point then afterPoint.dropWhile Char.isDigit else afterPoint
  if whole.isEmpty && fraction.isEmpty then
    none
  else
    (readExponent? afterFraction).map fun exponent =>
      nearestFloat (digitsValue (whole ++ fraction)) (exponent - fraction.length)

def readUnsignedFloat? (characters : List Char) : Option Float :=
  let lowered := String.ofList (characters.map Char.toLower)
  if lowered = "inf" ∨ lowered = "infinity" then
    some positiveInfinity
  else if lowered = "nan" then
    some notANumber
  else
    readDecimal? characters

def readFloat? (characters : List Char) : Option Float :=
  match characters with
  | '-' :: rest => (readUnsignedFloat? rest).map fun value => -value
  | '+' :: rest => readUnsignedFloat? rest
  | rest => readUnsignedFloat? rest

end Provisioning.Number
