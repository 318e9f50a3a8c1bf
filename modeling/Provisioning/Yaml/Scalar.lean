import Provisioning.Number.Decimal
import Provisioning.Json.Reader
import Provisioning.Value

/-!
The types of scalars: a plain scalar is what it looks like, a tagged one what its tag says, and any
other one is text.
-/

namespace Provisioning.Yaml

def isNullWord (text : String) : Bool :=
  text == "null" || text == "Null" || text == "NULL" || text == "~"

def boolWord? (text : String) : Option Bool :=
  if text == "true" || text == "True" || text == "TRUE" then some true
  else if text == "false" || text == "False" || text == "FALSE" then some false
  else none

def stripSign : List Char → List Char
  | '+' :: rest => rest
  | '-' :: rest => rest
  | rest => rest

/-- Decimal digits after a superfluous zero are text. -/
def isPadded (characters : List Char) : Bool :=
  let digits := stripSign characters
  digits.length > 1 && digits.head? == some '0' && digits.all Char.isDigit

def radixValue? (base : Nat) (digits : List Char) : Option Nat :=
  if digits.isEmpty then
    none
  else
    digits.foldlM (fun value digit =>
      match Json.hexValue? digit with
      | some next => if next < base then some (value * base + next) else none
      | none => none) 0

def magnitude? : List Char → Option Nat
  | '0' :: 'x' :: digits => radixValue? 16 digits
  | '0' :: 'o' :: digits => radixValue? 8 digits
  | '0' :: 'b' :: digits => radixValue? 2 digits
  | digits => if isPadded digits then none else Number.readNat? digits

def wholeNumber? : List Char → Option Int
  | '+' :: rest => (magnitude? rest).map Int.ofNat
  | '-' :: rest => (magnitude? rest).map fun value => -(value : Int)
  | rest => (magnitude? rest).map Int.ofNat

inductive Whole where
  /-- Within signed 64 bits. -/
  | exact (number : Int64)
  /-- Above that but within unsigned 64 bits. -/
  | rounded (number : Float)
  /-- Beyond 64 bits but within 128, which is refused. -/
  | refused
  /-- Beyond 128 bits, where it no longer counts as a whole number. -/
  | beyond

def Whole.ofInt (number : Int) : Whole :=
  match Number.toInt64? number with
  | some number => .exact number
  | none =>
      if 0 ≤ number ∧ number < Int.pow 2 64 then .rounded (Number.nearestFloat number.toNat 0)
      else if -(Int.pow 2 127) ≤ number ∧ number < Int.pow 2 128 then .refused
      else .beyond

def floatWord? (characters : List Char) : Option Float :=
  let text := String.ofList characters
  let afterPlus := match characters with
    | '+' :: rest => rest
    | rest => rest
  let signedTwice := characters.head? == some '+' &&
    afterPlus.head?.any fun sign => sign == '+' || sign == '-'
  let unsigned := String.ofList afterPlus
  if signedTwice then
    none
  else if unsigned == ".inf" || unsigned == ".Inf" || unsigned == ".INF" then
    some Number.positiveInfinity
  else if text == "-.inf" || text == "-.Inf" || text == "-.INF" then
    some (-Number.positiveInfinity)
  else if text == ".nan" || text == ".NaN" || text == ".NAN" then
    some Number.notANumber
  else
    (Number.readFloat? afterPlus).filter Float.isFinite

def floatOrText (text : String) : Value :=
  let characters := text.toList
  if isPadded characters then
    .str text
  else
    match floatWord? characters with
    | some number => .float number
    | none => .str text

/-- What a plain scalar without a tag is; `none` is a whole number too large to hold. -/
def plainValue? (text : String) : Option Value :=
  if text.isEmpty || isNullWord text then
    some .null
  else
    match boolWord? text, (wholeNumber? text.toList).map Whole.ofInt with
    | some flag, _ => some (.bool flag)
    | none, some (.exact number) => some (.int number)
    | none, some (.rounded number) => some (.float number)
    | none, some .refused => none
    | none, some .beyond => some (floatOrText text)
    | none, none => some (floatOrText text)

def taggedInteger? (text : String) : Option Value :=
  match (wholeNumber? text.toList).map Whole.ofInt with
  | some (.exact number) => some (.int number)
  | some (.rounded number) => some (.float number)
  | _ => none

def isOwnTag (tag : String) : Bool :=
  tag.toList.head? == some '!'

def scalarValue? (tag : Option String) (plain : Bool) (text : String) : Option Value :=
  match tag with
  | none => if plain then plainValue? text else some (.str text)
  | some tag =>
      if isOwnTag tag then none
      else if tag == "tag:yaml.org,2002:bool" then (boolWord? text).map .bool
      else if tag == "tag:yaml.org,2002:int" then taggedInteger? text
      else if tag == "tag:yaml.org,2002:float" then (floatWord? text.toList).map .float
      else if tag == "tag:yaml.org,2002:null" then
        if isNullWord text then some .null else none
      else some (.str text)

end Provisioning.Yaml
