/-!
White space in Unicode's sense, trimming by it, and cutting a text into stretches.
-/

namespace Provisioning.Text

/-- The `White_Space` property. -/
def isBlank (character : Char) : Bool :=
  let code := character.toNat
  (0x09 ≤ code && code ≤ 0x0D) || code == 0x20 || code == 0x85 || code == 0xA0 ||
    code == 0x1680 || (0x2000 ≤ code && code ≤ 0x200A) || code == 0x2028 || code == 0x2029 ||
    code == 0x202F || code == 0x205F || code == 0x3000

def trimStart (characters : List Char) : List Char :=
  characters.dropWhile isBlank

def trimEnd (characters : List Char) : List Char :=
  (characters.reverse.dropWhile isBlank).reverse

def trimChars (characters : List Char) : List Char :=
  trimEnd (trimStart characters)

def trim (text : String) : String :=
  String.ofList (trimChars text.toList)

def stretches (isBreak : Char → Bool) : List Char → List (List Char)
  | [] => [[]]
  | character :: rest =>
      if isBreak character then
        [] :: stretches isBreak rest
      else
        match stretches isBreak rest with
        | [] => [[character]]
        | first :: others => (character :: first) :: others

def tokens (isBreak : Char → Bool) (characters : List Char) : List (List Char) :=
  (stretches isBreak characters).filter fun stretch => !stretch.isEmpty

def splitOnce (mark : Char) : List Char → Option (List Char × List Char)
  | [] => none
  | character :: rest =>
      if character = mark then
        some ([], rest)
      else
        (splitOnce mark rest).map fun halves => (character :: halves.1, halves.2)

/-- Equality up to the case of ASCII letters. -/
def sameIgnoringCase (left right : String) : Bool :=
  left.toList.map Char.toLower == right.toList.map Char.toLower

end Provisioning.Text
