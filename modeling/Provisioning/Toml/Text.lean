import Provisioning.Json.Reader

/-!
The written forms of text in TOML: four kinds of strings, and the keys of tables.
-/

namespace Provisioning.Toml

def isBlank (character : Char) : Bool :=
  character == ' ' || character == '\t'

def skipBlanks (characters : List Char) : List Char :=
  characters.dropWhile isBlank

def isVisible (character : Char) : Bool :=
  character == '\t' || (0x20 ≤ character.toNat && character.toNat != 0x7F)

def afterBreak? : List Char → Option (List Char)
  | '\n' :: rest => some rest
  | '\r' :: '\n' :: rest => some rest
  | _ => none

def skipLinesFrom : Nat → List Char → Option (List Char)
  | 0, _ => none
  | fuel + 1, characters =>
      match skipBlanks characters with
      | '#' :: rest =>
          let rest := rest.dropWhile isVisible
          match rest, afterBreak? rest with
          | [], _ => some []
          | _, some rest => skipLinesFrom fuel rest
          | _, none => none
      | rest =>
          match afterBreak? rest with
          | some rest => skipLinesFrom fuel rest
          | none => some rest

def skipLines? (characters : List Char) : Option (List Char) :=
  skipLinesFrom (characters.length + 1) characters

def afterLine? (characters : List Char) : Option (List Char) :=
  let rest := skipBlanks characters
  let rest := if rest.head? == some '#' then rest.dropWhile isVisible else rest
  if rest.isEmpty then some [] else afterBreak? rest

def codeEscape? (size : Nat) (characters : List Char) : Option (Char × List Char) :=
  let digits := characters.take size
  if digits.length < size then
    none
  else
    match Json.hexDigitsValue? digits with
    | none => none
    | some code =>
        if code.isValidChar then some (Char.ofNat code, characters.drop size) else none

def escape? : List Char → Option (Char × List Char)
  | 'b' :: rest => some ('\x08', rest)
  | 't' :: rest => some ('\t', rest)
  | 'n' :: rest => some ('\n', rest)
  | 'f' :: rest => some ('\x0c', rest)
  | 'r' :: rest => some ('\r', rest)
  | '"' :: rest => some ('"', rest)
  | '\\' :: rest => some ('\\', rest)
  | 'u' :: rest => codeEscape? 4 rest
  | 'U' :: rest => codeEscape? 8 rest
  | _ => none

def basicFrom (text : List Char) : Nat → List Char → Option (List Char × List Char)
  | 0, _ => none
  | fuel + 1, characters =>
      match characters with
      | [] => none
      | '"' :: rest => some (text.reverse, rest)
      | '\\' :: rest =>
          match escape? rest with
          | some (character, rest) => basicFrom (character :: text) fuel rest
          | none => none
      | character :: rest =>
          if isVisible character then basicFrom (character :: text) fuel rest else none

def literalFrom (text : List Char) : List Char → Option (List Char × List Char)
  | [] => none
  | '\'' :: rest => some (text.reverse, rest)
  | character :: rest =>
      if isVisible character then literalFrom (character :: text) rest else none

/-- Three quotes end a string over several lines; up to two more before them belong to it. -/
def closing? (quote : Char) (characters : List Char) : Option (List Char × List Char) :=
  let count := (characters.takeWhile (· == quote)).length
  if 3 ≤ count then
    let kept := min (count - 3) 2
    some (List.replicate kept quote, characters.drop (kept + 3))
  else
    none

def skipBreaksFrom : Nat → List Char → List Char
  | 0, characters => characters
  | fuel + 1, characters =>
      let rest := skipBlanks characters
      match afterBreak? rest with
      | some rest => skipBreaksFrom fuel rest
      | none => rest

def afterJoint? (characters : List Char) : Option (List Char) :=
  (afterBreak? (skipBlanks characters)).map fun rest => skipBreaksFrom (rest.length + 1) rest

/-- The rest of a string over several lines, in which backslashes are escapes where `escaped`
holds. -/
def linesFrom (quote : Char) (escaped : Bool) (text : List Char) :
    Nat → List Char → Option (List Char × List Char)
  | 0, _ => none
  | fuel + 1, characters =>
      match closing? quote characters, afterBreak? characters, characters with
      | some (kept, rest), _, _ => some (text.reverse ++ kept, rest)
      | none, some rest, _ => linesFrom quote escaped ('\n' :: text) fuel rest
      | none, none, character :: rest =>
          if escaped && character == '\\' then
            match escape? rest, afterJoint? rest with
            | some (character, rest), _ => linesFrom quote escaped (character :: text) fuel rest
            | none, some rest => linesFrom quote escaped text fuel rest
            | none, none => none
          else if isVisible character then
            linesFrom quote escaped (character :: text) fuel rest
          else
            none
      | none, none, [] => none

/-- A line break right after the opening quotes is no part of the string. -/
def lines? (quote : Char) (escaped : Bool) (characters : List Char) :
    Option (List Char × List Char) :=
  let rest := (afterBreak? characters).getD characters
  linesFrom quote escaped [] (rest.length + 1) rest

def line? : List Char → Option (List Char × List Char)
  | '"' :: rest => basicFrom [] (rest.length + 1) rest
  | '\'' :: rest => literalFrom [] rest
  | _ => none

def string? : List Char → Option (List Char × List Char)
  | '"' :: '"' :: '"' :: rest => lines? '"' true rest
  | '\'' :: '\'' :: '\'' :: rest => lines? '\'' false rest
  | characters => line? characters

def isBareChar (character : Char) : Bool :=
  character.isAlphanum || character == '_' || character == '-'

def keyPart? (characters : List Char) : Option (String × List Char) :=
  let bare := characters.takeWhile isBareChar
  if bare.isEmpty then
    (line? characters).map fun (text, rest) => (String.ofList text, rest)
  else
    some (String.ofList bare, characters.drop bare.length)

def depthLimit : Nat := 80

def keyFrom : Nat → List Char → Option (List String × List Char)
  | 0, _ => none
  | fuel + 1, characters =>
      match keyPart? (skipBlanks characters) with
      | none => none
      | some (part, rest) =>
          match skipBlanks rest with
          | '.' :: rest => (keyFrom fuel rest).map fun (parts, rest) => (part :: parts, rest)
          | rest => some ([part], rest)

def key? (characters : List Char) : Option (List String × List Char) :=
  keyFrom (depthLimit - 1) characters

end Provisioning.Toml
