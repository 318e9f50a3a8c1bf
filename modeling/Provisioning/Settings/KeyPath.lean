import Provisioning.Number.Integer
import Provisioning.Text.Blank

/-!
Keys that lead into nested tables and lists, such as `a.b[2]`.
-/

namespace Provisioning

inductive Step where
  | key (name : String)
  | index (position : Int)
  deriving DecidableEq, Repr

structure KeyPath where
  root : String
  steps : List Step
  deriving DecidableEq, Repr

namespace KeyPath

def isNameChar (character : Char) : Bool :=
  character.isAlphanum || character == ' ' || character == '_' || character == '-'

def name? (characters : List Char) : Option (String × List Char) :=
  let name := characters.takeWhile isNameChar
  if name.isEmpty then
    none
  else
    some (String.ofList name, characters.drop name.length)

def skipBlanks (characters : List Char) : List Char :=
  characters.dropWhile fun character => character == ' ' || character == '\t'

def position? (characters : List Char) : Option (Int × List Char) := do
  let start := skipBlanks characters
  let negative := start.head? == some '-'
  let digits := (if negative then start.drop 1 else start).takeWhile Char.isDigit
  let rest := (if negative then start.drop 1 else start).dropWhile Char.isDigit
  let size ← Number.readNat? digits
  let number ← Number.toInt64? (if negative then -(size : Int) else size)
  return (number.toInt, skipBlanks rest)

def stepsFrom : Nat → List Char → Option (List Step)
  | _, [] => some []
  | 0, _ => none
  | fuel + 1, '.' :: rest =>
      match name? rest with
      | some (name, rest) => (stepsFrom fuel rest).map (.key name :: ·)
      | none => none
  | fuel + 1, '[' :: rest =>
      match position? rest with
      | some (position, ']' :: rest) => (stepsFrom fuel rest).map (.index position :: ·)
      | _ => none
  | _, _ => none

def read? (key : String) : Option KeyPath := do
  let characters := key.toList
  let (root, rest) ← name? characters
  let steps ← stepsFrom characters.length rest
  return { root, steps }

end KeyPath

end Provisioning
