import Provisioning.Json
import Provisioning.Number.Decimal

/-!
JSON numbers. The digits are gathered into a 64-bit significand; digits that no longer fit only
move the exponent. A fraction is the significand times or divided by a power of ten, each step
rounded.
-/

namespace Provisioning.Json

open Number

def significandLimit : Nat := Nat.pow 2 64

def gatherDigits (significand : Nat) : List Char → Nat × Nat
  | [] => (significand, 0)
  | digit :: rest =>
      let next := significand * 10 + digitValue digit
      if next < significandLimit then
        gatherDigits next rest
      else
        (significand, rest.length + 1)

def powerOfTen (exponent : Nat) : Float :=
  Float.ofScientific 1 false exponent

/-- Divides by `10 ^ 308` until the exponent is within reach. -/
def scaleDown : Nat → Float → Nat → Float
  | 0, value, exponent => value / powerOfTen exponent
  | steps + 1, value, exponent =>
      if exponent ≤ 308 then
        value / powerOfTen exponent
      else if value == 0.0 then
        value
      else
        scaleDown steps (value / powerOfTen 308) (exponent - 308)

def scale? (significand : Nat) (exponent : Int) : Option Float :=
  let value := Float.ofNat significand
  match exponent with
  | .ofNat power =>
      if power ≤ 308 then
        let scaled := value * powerOfTen power
        if scaled.isInf then none else some scaled
      else if value == 0.0 then
        some value
      else
        none
  | .negSucc power => some (scaleDown 4 value (power + 1))

structure NumberText where
  negative : Bool
  whole : List Char
  fraction : Option (List Char)
  exponent : Option (Bool × List Char)

def splitNumber? (characters : List Char) : Option (NumberText × List Char) := do
  let negative := characters.head? == some '-'
  let unsigned := if negative then characters.drop 1 else characters
  let whole := unsigned.takeWhile Char.isDigit
  let afterWhole := unsigned.dropWhile Char.isDigit
  if whole.isEmpty || (whole.head? == some '0' && whole.length > 1) then
    none
  let (fraction, afterFraction) ← match afterWhole with
    | '.' :: rest =>
        let digits := rest.takeWhile Char.isDigit
        if digits.isEmpty then none else some (some digits, rest.dropWhile Char.isDigit)
    | rest => some (none, rest)
  let (exponent, rest) ← match afterFraction with
    | letter :: rest =>
        if letter = 'e' ∨ letter = 'E' then
          let (down, rest) := match rest with
            | '-' :: rest => (true, rest)
            | '+' :: rest => (false, rest)
            | rest => (false, rest)
          let digits := rest.takeWhile Char.isDigit
          if digits.isEmpty then none
          else some (some (down, digits), rest.dropWhile Char.isDigit)
        else
          some (none, letter :: rest)
    | [] => some (none, [])
  some (⟨negative, whole, fraction, exponent⟩, rest)

def signed (negative : Bool) (value : Float) : Float :=
  if negative then -value else value

/-- A number without fraction and exponent is an integer when it fits the range of 64-bit words;
a negative zero is not an integer. -/
def wholeNumber? (negative : Bool) (digits : List Char) : Option Json :=
  let (significand, dropped) := gatherDigits 0 digits
  if dropped > 0 then
    (scale? significand dropped).map fun value => .float (signed negative value)
  else if negative then
    if significand = 0 ∨ significand > Nat.pow 2 63 then
      some (.float (-(Float.ofNat significand)))
    else
      some (.int (-(significand : Int)))
  else
    some (.int significand)

def NumberText.read? (text : NumberText) : Option Json :=
  match text.fraction, text.exponent with
  | none, none => wholeNumber? text.negative text.whole
  | fraction, exponent =>
      let (whole, dropped) := gatherDigits 0 text.whole
      let digits := fraction.getD []
      let (significand, unread) := gatherDigits whole digits
      let base : Int := (dropped : Int) - ((digits.length - unread : Nat) : Int)
      let shift : Int := match exponent with
        | none => 0
        | some (down, digits) => if down then -(digitsValue digits : Int) else digitsValue digits
      if significand = 0 then
        some (.float (signed text.negative 0.0))
      else
        (scale? significand (base + shift)).map fun value => .float (signed text.negative value)

end Provisioning.Json
