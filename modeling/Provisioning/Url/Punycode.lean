/-!
Punycode: a text in any script as letters, digits and hyphens. The ASCII characters come first;
the others are told by how far apart they are, in order of code point and place.
-/

namespace Provisioning.Url.Punycode

def base : Nat := 36

def threshold (place bias : Nat) : Nat :=
  if place ≤ bias then 1 else if bias + 26 ≤ place then 26 else place - bias

theorem threshold_pos (place bias : Nat) : 1 ≤ threshold place bias := by
  unfold threshold
  split
  · omega
  · split <;> omega

def shrink (delta places : Nat) : Nat × Nat :=
  if 455 < delta then shrink (delta / 35) (places + base) else (delta, places)
termination_by delta
decreasing_by exact Nat.div_lt_self (by omega) (by omega)

def adapt (delta count : Nat) (first : Bool) : Nat :=
  let damped := if first then delta / 700 else delta / 2
  let (delta, places) := shrink (damped + damped / count) 0
  places + base * delta / (delta + 38)

def digitChar (digit : Nat) : Char :=
  if digit < 26 then Char.ofNat (0x61 + digit) else Char.ofNat (0x30 + (digit - 26))

def digitValue? (character : Char) : Option Nat :=
  if 'a' ≤ character ∧ character ≤ 'z' then
    some (character.toNat - 'a'.toNat)
  else if character.isDigit then
    some (character.toNat - '0'.toNat + 26)
  else
    none

def writeNumber (bias place number : Nat) : List Char :=
  let least := threshold place bias
  if number < least then
    [digitChar number]
  else
    digitChar (least + (number - least) % (base - least)) ::
      writeNumber bias (place + base) ((number - least) / (base - least))
termination_by number
decreasing_by
  have := threshold_pos place bias
  exact Nat.lt_of_le_of_lt (Nat.div_le_self _ _) (by omega)

/-- Reads a number whose digits at `place` count `weight` each. -/
def readNumber? (bias : Nat) : List Char → Nat → Nat → Nat → Option (Nat × List Char)
  | [], _, _, _ => none
  | character :: rest, place, weight, number =>
      match digitValue? character with
      | none => none
      | some digit =>
          let least := threshold place bias
          let number := number + digit * weight
          if digit < least then
            some (number, rest)
          else
            readNumber? bias rest (place + base) (weight * (base - least)) number

def firstBias : Nat := 72

def firstCode : Nat := 0x80

structure Writing where
  output : List Char
  delta : Nat
  bias : Nat
  count : Nat

def Writing.pass (plain code : Nat) (writing : Writing) (character : Char) : Writing :=
  if character.toNat < code then
    { writing with delta := writing.delta + 1 }
  else if character.toNat = code then
    { output := writing.output ++ writeNumber writing.bias base writing.delta
      delta := 0
      bias := adapt writing.delta (writing.count + 1) (writing.count == plain)
      count := writing.count + 1 }
  else
    writing

def writeFrom (text : List Char) (plain next : Nat) : List Nat → Writing → Writing
  | [], writing => writing
  | code :: codes, writing =>
      let moved := { writing with delta := writing.delta + (code - next) * (writing.count + 1) }
      let passed := text.foldl (Writing.pass plain code) moved
      writeFrom text plain (code + 1) codes { passed with delta := passed.delta + 1 }

def encode (text : List Char) : List Char :=
  let plain := text.filter (·.toNat < firstCode)
  let codes := ((text.map Char.toNat).filter (firstCode ≤ ·)).eraseDups.mergeSort
  let start : Writing := ⟨[], 0, firstBias, plain.length⟩
  let told := (writeFrom text plain.length firstCode codes start).output
  if plain.isEmpty then told else plain ++ '-' :: told

def insertFrom (text : List Char) (code place bias : Nat) (first : Bool) :
    Nat → List Char → Option (List Char)
  | 0, _ => none
  | _ + 1, [] => some text
  | fuel + 1, input =>
      match readNumber? bias input base 1 place with
      | none => none
      | some (reached, rest) =>
          let count := text.length + 1
          let code := code + reached / count
          let spot := reached % count
          if code.isValidChar then
            insertFrom (text.insertIdx spot (Char.ofNat code)) code (spot + 1)
              (adapt (reached - place) count first) false fuel rest
          else
            none

/-- The text that `encode` writes so. A hyphen that sets off no ASCII characters is refused. -/
def decode? (input : List Char) : Option (List Char) :=
  let told := (input.reverse.takeWhile (· != '-')).reverse
  let lead := input.take (input.length - told.length)
  if lead.length = 1 then
    none
  else
    insertFrom lead.dropLast firstCode 0 firstBias true (told.length + 1) told

end Provisioning.Url.Punycode
