import Provisioning.Dict
import Provisioning.Json.Number

/-!
Reading a JSON document. Nesting is limited, a repeated key keeps its last value, and nothing but
white space may follow the document.
-/

namespace Provisioning.Json

def depthLimit : Nat := 127

def isSpace (character : Char) : Bool :=
  character == ' ' || character == '\n' || character == '\t' || character == '\r'

def skipSpace (characters : List Char) : List Char :=
  characters.dropWhile isSpace

def hexValue? (character : Char) : Option Nat :=
  if character.isDigit then
    some (character.toNat - '0'.toNat)
  else if 'a' ≤ character ∧ character ≤ 'f' then
    some (character.toNat - 'a'.toNat + 10)
  else if 'A' ≤ character ∧ character ≤ 'F' then
    some (character.toNat - 'A'.toNat + 10)
  else
    none

def hexDigitsValue? (digits : List Char) : Option Nat :=
  digits.foldlM (fun value digit => (hexValue? digit).map fun next => value * 16 + next) 0

/-- The character that a code unit stands for; a leading surrogate takes a second unit. -/
def unicodeEscape? (characters : List Char) : Option (Char × List Char) := do
  if characters.length < 4 then
    none
  let unit ← hexDigitsValue? (characters.take 4)
  let rest := characters.drop 4
  if 0xD800 ≤ unit ∧ unit < 0xDC00 then
    match rest with
    | '\\' :: 'u' :: second =>
        if second.length < 4 then
          none
        let low ← hexDigitsValue? (second.take 4)
        if 0xDC00 ≤ low ∧ low < 0xE000 then
          some (Char.ofNat (0x10000 + (unit - 0xD800) * 0x400 + (low - 0xDC00)), second.drop 4)
        else
          none
    | _ => none
  else if 0xDC00 ≤ unit ∧ unit < 0xE000 then
    none
  else
    some (Char.ofNat unit, rest)

def escape? : List Char → Option (Char × List Char)
  | '"' :: rest => some ('"', rest)
  | '\\' :: rest => some ('\\', rest)
  | '/' :: rest => some ('/', rest)
  | 'b' :: rest => some ('\x08', rest)
  | 'f' :: rest => some ('\x0c', rest)
  | 'n' :: rest => some ('\n', rest)
  | 'r' :: rest => some ('\r', rest)
  | 't' :: rest => some ('\t', rest)
  | 'u' :: rest => unicodeEscape? rest
  | _ => none

def stringFrom (gathered : List Char) : Nat → List Char → Option (String × List Char)
  | 0, _ => none
  | fuel + 1, characters =>
      match characters with
      | [] => none
      | '"' :: rest => some (String.ofList gathered.reverse, rest)
      | '\\' :: rest =>
          match escape? rest with
          | some (character, rest) => stringFrom (character :: gathered) fuel rest
          | none => none
      | character :: rest =>
          if character.toNat < 0x20 then
            none
          else
            stringFrom (character :: gathered) fuel rest

def afterWord? (word : String) (characters : List Char) : Option (List Char) :=
  if word.toList.isPrefixOf characters then some (characters.drop word.length) else none

mutual

def valueFrom (depth : Nat) : Nat → List Char → Option (Json × List Char)
  | 0, _ => none
  | fuel + 1, characters =>
      match skipSpace characters with
      | [] => none
      | 'n' :: rest => (afterWord? "ull" rest).map fun rest => (.null, rest)
      | 't' :: rest => (afterWord? "rue" rest).map fun rest => (.bool true, rest)
      | 'f' :: rest => (afterWord? "alse" rest).map fun rest => (.bool false, rest)
      | '"' :: rest => (stringFrom [] (rest.length + 1) rest).map fun (text, rest) => (.str text, rest)
      | '[' :: rest =>
          if depth = 0 then
            none
          else
            match skipSpace rest with
            | ']' :: rest => some (.array [], rest)
            | rest => itemsFrom (depth - 1) [] fuel rest
      | '\x7b' :: rest =>
          if depth = 0 then
            none
          else
            match skipSpace rest with
            | '\x7d' :: rest => some (.object [], rest)
            | rest => membersFrom (depth - 1) [] fuel rest
      | start =>
          match splitNumber? start with
          | some (text, rest) => text.read?.map fun number => (number, rest)
          | none => none

def itemsFrom (depth : Nat) (gathered : List Json) : Nat → List Char → Option (Json × List Char)
  | 0, _ => none
  | fuel + 1, characters =>
      match valueFrom depth fuel characters with
      | none => none
      | some (item, rest) =>
          match skipSpace rest with
          | ',' :: rest => itemsFrom depth (item :: gathered) fuel rest
          | ']' :: rest => some (.array (item :: gathered).reverse, rest)
          | _ => none

def membersFrom (depth : Nat) (gathered : List (String × Json)) :
    Nat → List Char → Option (Json × List Char)
  | 0, _ => none
  | fuel + 1, characters =>
      match skipSpace characters with
      | '"' :: rest =>
          match stringFrom [] (rest.length + 1) rest with
          | none => none
          | some (key, rest) =>
              match skipSpace rest with
              | ':' :: rest =>
                  match valueFrom depth fuel rest with
                  | none => none
                  | some (member, rest) =>
                      let members := (key, member) :: gathered
                      match skipSpace rest with
                      | ',' :: rest => membersFrom depth members fuel rest
                      | '\x7d' :: rest => some (.object (Dict.ofList members.reverse), rest)
                      | _ => none
              | _ => none
      | _ => none

end

def readWithin? (depth : Nat) (text : String) : Option Json :=
  let characters := text.toList
  match valueFrom depth (2 * characters.length + 2) characters with
  | some (document, rest) => if (skipSpace rest).isEmpty then some document else none
  | none => none

def read? (text : String) : Option Json :=
  readWithin? depthLimit text

end Provisioning.Json
