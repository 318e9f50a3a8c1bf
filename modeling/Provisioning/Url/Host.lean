import Provisioning.Url.Address
import Provisioning.Url.DomainName

/-!
The host of a URL. Most schemes read it as a domain name or an address; the others keep a name as
it is written.
-/

namespace Provisioning.Url

inductive Host where
  | name (text : String)
  | ipv4 (address : Nat)
  | ipv6 (pieces : List Nat)
  deriving DecidableEq, Repr

namespace Host

def text : Host → String
  | .name text => text
  | .ipv4 address => ipv4Text address
  | .ipv6 pieces => "[" ++ ipv6Text pieces ++ "]"

end Host

def upperHex (value : Nat) : List Char :=
  (Nat.toDigits 16 value).map Char.toUpper

def percentByte (byte : UInt8) : List Char :=
  let digits := upperHex byte.toNat
  '%' :: (if digits.length = 1 then '0' :: digits else digits)

def percentEncode (isEscaped : Char → Bool) (text : List Char) : List Char :=
  text.flatMap fun character =>
    if isEscaped character || character.toNat ≥ 0x80 then
      (String.utf8EncodeChar character).flatMap percentByte
    else
      [character]

def isControl (character : Char) : Bool :=
  character.toNat < 0x20 || character.toNat == 0x7F

def percentDecode : List Char → List UInt8
  | '%' :: high :: low :: rest =>
      match Json.hexDigitsValue? [high, low] with
      | some value => UInt8.ofNat value :: percentDecode rest
      | none => String.utf8EncodeChar '%' ++ percentDecode (high :: low :: rest)
  | character :: rest => String.utf8EncodeChar character ++ percentDecode rest
  | [] => []

def decodeBytes? (bytes : List UInt8) : Option String :=
  String.fromUTF8? ⟨bytes.toArray⟩

def bracketed? (text : List Char) : Option Host :=
  if text.getLast? == some ']' then (ipv6? (text.drop 1).dropLast).map .ipv6 else none

def host? (text : List Char) : Option Host :=
  if text.head? == some '[' then
    bracketed? text
  else do
    let decoded ← decodeBytes? (percentDecode text)
    let name ← DomainName.toAscii? decoded.toList
    if name.isEmpty then
      none
    else if endsInNumber name then
      (ipv4? name).map .ipv4
    else
      some (.name (String.ofList name))

def isHostDelimiter (character : Char) : Bool :=
  "\x00\t\n\r #/:<>?@[\\]^|".toList.contains character

def opaqueHost? (text : List Char) : Option Host :=
  if text.head? == some '[' then
    bracketed? text
  else if text.any isHostDelimiter then
    none
  else
    some (.name (String.ofList (percentEncode isControl text)))

end Provisioning.Url
