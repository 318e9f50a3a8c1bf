/-!
Reading 64-bit integers from text.
-/

namespace Provisioning.Number

def int64Min : Int := -(Int.pow 2 63)

def int64Max : Int := Int.pow 2 63 - 1

def toInt64? (number : Int) : Option Int64 :=
  if int64Min ≤ number ∧ number ≤ int64Max then some (Int64.ofInt number) else none

def digitValue (character : Char) : Nat :=
  character.toNat - '0'.toNat

def digitsValue (digits : List Char) : Nat :=
  digits.foldl (fun value digit => value * 10 + digitValue digit) 0

def readNat? (characters : List Char) : Option Nat :=
  if !characters.isEmpty && characters.all Char.isDigit then
    some (digitsValue characters)
  else
    none

def readInt64? (characters : List Char) : Option Int64 :=
  match characters with
  | '-' :: digits => (readNat? digits).bind fun value => toInt64? (-(value : Int))
  | '+' :: digits => (readNat? digits).bind fun value => toInt64? value
  | digits => (readNat? digits).bind fun value => toInt64? value

end Provisioning.Number
