import Provisioning.Number.Decimal
import Provisioning.Json.Reader
import Provisioning.Value

/-!
The written forms of numbers in TOML.
-/

namespace Provisioning.Toml

open Provisioning.Number

def digitsFrom (isDigit : Char → Bool) (digits : List Char) :
    List Char → Option (List Char × List Char)
  | [] => some (digits.reverse, [])
  | '_' :: digit :: rest =>
      if isDigit digit then digitsFrom isDigit (digit :: digits) rest else none
  | character :: rest =>
      if isDigit character then digitsFrom isDigit (character :: digits) rest
      else if character == '_' then none
      else some (digits.reverse, character :: rest)

def digits? (isDigit : Char → Bool) : List Char → Option (List Char × List Char)
  | character :: rest => if isDigit character then digitsFrom isDigit [character] rest else none
  | [] => none

/-- Decimal digits without a superfluous zero: one zero is all that is read where it comes first. -/
def whole? : List Char → Option (List Char × List Char)
  | '0' :: rest => some (['0'], rest)
  | characters => digits? Char.isDigit characters

def splitSign : List Char → Bool × List Char
  | '-' :: rest => (true, rest)
  | '+' :: rest => (false, rest)
  | rest => (false, rest)

def exponent? : List Char → Option (Int × List Char)
  | character :: rest =>
      if character == 'e' || character == 'E' then
        let (negative, rest) := splitSign rest
        (digits? Char.isDigit rest).map fun (digits, rest) =>
          let size : Int := digitsValue digits
          (if negative then -size else size, rest)
      else
        some (0, character :: rest)
  | [] => some (0, [])

def fraction? : List Char → Option (List Char × List Char)
  | '.' :: rest => digits? Char.isDigit rest
  | rest => some ([], rest)

/-- Numbers too large for a float are refused, unless they are negative. -/
def ofMagnitude? (negative : Bool) (magnitude : Float) : Option Float :=
  if negative then some (-magnitude)
  else if magnitude.isInf then none
  else some magnitude

def afterWord? (word : String) (characters : List Char) : Option (List Char) :=
  Json.afterWord? word characters

def special? (negative : Bool) (characters : List Char) : Option (Value × List Char) :=
  let signed (magnitude : Float) : Value := .float (if negative then -magnitude else magnitude)
  match afterWord? "inf" characters, afterWord? "nan" characters with
  | some rest, _ => some (signed positiveInfinity, rest)
  | none, some rest => some (signed notANumber, rest)
  | none, none => none

def digitBelow (base : Nat) (character : Char) : Bool :=
  (Json.hexValue? character).any (· < base)

def based? (base : Nat) (characters : List Char) : Option (Value × List Char) := do
  let (digits, rest) ← digits? (digitBelow base) characters
  let value := digits.foldl (fun value digit => value * base + (Json.hexValue? digit).getD 0) 0
  let number ← toInt64? value
  return (.int number, rest)

def decimal? (characters : List Char) : Option (Value × List Char) := do
  let (negative, rest) := splitSign characters
  if (special? negative rest).isSome then
    special? negative rest
  else
    let (whole, rest) ← whole? rest
    let pointed := rest.head?.any fun next => next == '.' || next == 'e' || next == 'E'
    if pointed then
      let (fraction, rest) ← fraction? rest
      let (exponent, rest) ← exponent? rest
      let magnitude := nearestFloat (digitsValue (whole ++ fraction)) (exponent - fraction.length)
      let number ← ofMagnitude? negative magnitude
      return (.float number, rest)
    else
      let value : Int := digitsValue whole
      let number ← toInt64? (if negative then -value else value)
      return (.int number, rest)

def number? : List Char → Option (Value × List Char)
  | '0' :: 'x' :: rest => based? 16 rest
  | '0' :: 'o' :: rest => based? 8 rest
  | '0' :: 'b' :: rest => based? 2 rest
  | characters => decimal? characters

end Provisioning.Toml
