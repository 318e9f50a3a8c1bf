import Provisioning.Text.Blank
import Provisioning.Text.Composition
import Provisioning.Text.Lowercase
import Provisioning.Text.PrintTable
import Provisioning.Url.DomainTable
import Provisioning.Url.Punycode
import Provisioning.Url.ScriptTable

/-!
Internationalised domain names and the ASCII form they are looked up by.
-/

namespace Provisioning.Url.DomainName

open Provisioning.Text

def isAscii (character : Char) : Bool :=
  character.toNat < 0x80

def nonJoiner : Char := '\u200c'

def joiner : Char := '\u200d'

def isJoiner (character : Char) : Bool :=
  character == nonJoiner || character == joiner

def phrase? (character : Char) : Option (List Char) :=
  phraseRows.findSome? fun (first, phrases) =>
    if first ≤ character.toNat then
      (stretches (· == ' ') phrases.toList)[character.toNat - first]?
    else
      none

/-- What a character of a name counts as; `none` where no name holds it. -/
def unify? (character : Char) : Option (List Char) :=
  if isAscii character then
    some [character.toLower]
  else if inRanges ignoredRanges character then
    some []
  else if isJoiner character then
    some [character]
  else if inRanges refusedRanges character || inRanges unprintableRanges character then
    none
  else
    match rowEntry? letterRows character, phrase? character with
    | some letter, _ => some [letter]
    | none, some phrase => some phrase
    | none, none => some (lowerChar character)

def isSettled (character : Char) : Bool :=
  unify? character == some [character]

def isAttached (character : Char) : Bool :=
  !isAscii character && !isJoiner character && inRanges graphemeExtendRanges character

def isMark (character : Char) : Bool :=
  isAttached character || inRanges spacingMarkRanges character

inductive Direction where
  | left
  | right
  | arabicNumber
  | europeanNumber
  | neutral
  | mark
  deriving DecidableEq

def direction (character : Char) : Direction :=
  if isAscii character then
    if character.isAlpha then .left else if character.isDigit then .europeanNumber else .neutral
  else if inRanges rightToLeftRanges character then .right
  else if inRanges arabicNumberRanges character then .arabicNumber
  else if inRanges europeanNumberRanges character then .europeanNumber
  else if isAttached character then .mark
  else if isJoiner character || inRanges neutralRanges character then .neutral
  else .left

def turnsDirection (label : List Char) : Bool :=
  label.any fun character =>
    direction character == .right || direction character == .arabicNumber

/-- A label runs in one direction: it starts with a letter, ends with a letter or a number, and
holds no letters of the other direction. -/
def keepsDirection (label : List Char) : Bool :=
  let directions := label.map direction
  let last := directions.reverse.find? (· != .mark)
  match directions.head? with
  | none => true
  | some .left =>
      directions.all (fun direction => direction != .right && direction != .arabicNumber) &&
        (last == some .left || last == some .europeanNumber)
  | some .right =>
      directions.all (· != .left) &&
        (last == some .right || last == some .europeanNumber || last == some .arabicNumber) &&
        !(directions.contains .europeanNumber && directions.contains .arabicNumber)
  | some _ => false

def isVirama (character : Char) : Bool :=
  combiningClass character == 9

def joinsNext (character : Char) : Bool :=
  inRanges dualJoiningRanges character || inRanges leftJoiningRanges character

def joinsPrevious (character : Char) : Bool :=
  inRanges dualJoiningRanges character || inRanges rightJoiningRanges character

/-- Joiners stand after a virama; a non-joiner also between letters that would join. `before` holds
the characters already passed, nearest first. -/
def placesJoiners (before : List Char) : List Char → Bool
  | [] => true
  | character :: rest =>
      let afterVirama := before.head?.any isVirama
      let parts := (before.find? fun near => !isAttached near).any joinsNext &&
        (rest.find? fun near => !isAttached near).any joinsPrevious
      let placed := !isJoiner character || afterVirama || (character == nonJoiner && parts)
      placed && placesJoiners (character :: before) rest

def isValidLabel (label : List Char) : Bool :=
  label.all isSettled && !label.head?.any isMark && placesJoiners [] label

def encodingMark : List Char := "xn--".toList

def decodeLabel? (label : List Char) : Option (List Char) :=
  if !encodingMark.isPrefixOf label then
    some label
  else if !label.all isAscii then
    none
  else
    match Punycode.decode? (label.drop encodingMark.length) with
    | none => none
    | some decoded =>
        if decoded.all isAscii || canonical decoded != decoded ||
            encodingMark.isPrefixOf decoded then
          none
        else
          some decoded

def encodeLabel (label : List Char) : List Char :=
  if label.all isAscii then label else encodingMark ++ Punycode.encode label

def isForbidden (character : Char) : Bool :=
  character.toNat ≤ 0x20 || character.toNat == 0x7F || "%#/:<>?@[\\]^|".toList.contains character

def toAscii? (name : List Char) : Option (List Char) := do
  let unified ← name.mapM unify?
  let labels ← (stretches (· == '.') (canonical unified.flatten)).mapM decodeLabel?
  let ordered := !labels.any turnsDirection || labels.all keepsDirection
  if labels.all isValidLabel && ordered then
    let ascii := List.intercalate ['.'] (labels.map encodeLabel)
    if ascii.any isForbidden then none else some ascii
  else
    none

end Provisioning.Url.DomainName
