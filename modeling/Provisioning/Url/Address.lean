import Provisioning.Json.Reader
import Provisioning.Number.Integer
import Provisioning.Text.Blank

/-!
Numeric host addresses, in all the ways they are written, and the one way they are shown.
-/

namespace Provisioning.Url

open Provisioning.Text

def digitsIn? (base : Nat) (digits : List Char) : Option Nat :=
  digits.foldlM (fun value digit =>
    match Json.hexValue? digit with
    | some next => if next < base then some (value * base + next) else none
    | none => none) 0

def ipv4Part? : List Char → Option Nat
  | [] => none
  | '0' :: 'x' :: digits => digitsIn? 16 digits
  | '0' :: 'X' :: digits => digitsIn? 16 digits
  | '0' :: digit :: digits => digitsIn? 8 (digit :: digits)
  | digits => digitsIn? 10 digits

def ipv4Parts (name : List Char) : List (List Char) :=
  let parts := stretches (· == '.') name
  if parts.getLast? == some [] then parts.dropLast else parts

/-- A name whose last part is a number can only be an address. -/
def endsInNumber (name : List Char) : Bool :=
  match (ipv4Parts name).getLast? with
  | none => false
  | some last => (!last.isEmpty && last.all Char.isDigit) || (ipv4Part? last).isSome

/-- All but the last part are bytes; the last one fills the bytes that are left. -/
def ipv4Value? (parts : List Nat) : Option Nat :=
  match parts.getLast? with
  | none => none
  | some last =>
      let bytes := parts.dropLast
      if bytes.length ≤ 3 ∧ bytes.all (· ≤ 255) ∧ last < Nat.pow 256 (4 - bytes.length) then
        some ((bytes.foldl (fun value byte => value * 256 + byte) 0) * Nat.pow 256 (4 - bytes.length) +
          last)
      else
        none

def ipv4? (name : List Char) : Option Nat := do
  let parts ← (ipv4Parts name).mapM ipv4Part?
  ipv4Value? parts

def ipv4Text (address : Nat) : String :=
  ".".intercalate ([3, 2, 1, 0].map fun place => toString (address / Nat.pow 256 place % 256))

def plainByte? (digits : List Char) : Option Nat := do
  let value ← Number.readNat? digits
  if value ≤ 255 && (digits.length == 1 || digits.head? != some '0') then some value else none

def dottedPieces? (text : List Char) : Option (List Nat) :=
  match (stretches (· == '.') text).mapM plainByte? with
  | some [first, second, third, fourth] => some [first * 256 + second, third * 256 + fourth]
  | _ => none

def piece? (digits : List Char) : Option Nat :=
  if digits.isEmpty || digits.length > 4 then none else digitsIn? 16 digits

def piecesFrom : List (List Char) → Option (List Nat)
  | [] => some []
  | [last] => if last.contains '.' then dottedPieces? last else (piece? last).map ([·])
  | first :: rest => do
      let piece ← piece? first
      let pieces ← piecesFrom rest
      some (piece :: pieces)

def pieces? (text : List Char) : Option (List Nat) :=
  if text.isEmpty then some [] else piecesFrom (stretches (· == ':') text)

def splitDouble : List Char → Option (List Char × List Char)
  | ':' :: ':' :: rest => some ([], rest)
  | character :: rest =>
      (splitDouble rest).map fun (before, after) => (character :: before, after)
  | [] => none

def ipv6? (text : List Char) : Option (List Nat) :=
  match splitDouble text with
  | none => (pieces? text).filter (·.length = 8)
  | some (before, after) => do
      if before.contains '.' then
        none
      let front ← pieces? before
      let back ← pieces? after
      let missing := 8 - (front.length + back.length)
      if missing = 0 then none else some (front ++ List.replicate missing 0 ++ back)

/-- Where the first of the longest runs of at least two zeros starts, and its length. -/
def longestZeros (pieces : List Nat) : Option (Nat × Nat) :=
  (List.range pieces.length).foldl (fun best start =>
    let run := ((pieces.drop start).takeWhile (· == 0)).length
    if 2 ≤ run ∧ (best.map (·.2)).getD 0 < run then some (start, run) else best) none

def pieceText (piece : Nat) : String :=
  String.ofList (Nat.toDigits 16 piece)

def piecesText (pieces : List Nat) : String :=
  ":".intercalate (pieces.map pieceText)

def ipv6Text (pieces : List Nat) : String :=
  match longestZeros pieces with
  | none => piecesText pieces
  | some (start, run) =>
      piecesText (pieces.take start) ++ "::" ++ piecesText (pieces.drop (start + run))

end Provisioning.Url
