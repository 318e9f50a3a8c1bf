import Provisioning.Text.Words

/-!
Options written as one text, such as `console=ttyS0,115200 quiet`. Words hold `key=value` pairs; a
comma separates pairs only where the text after it has an equals sign of its own.
-/

namespace Provisioning.Options

/-- Joins to `piece` the parts that have no equals sign, and lets the others begin a piece. -/
def gluedFrom (piece : List Char) : List (List Char) → List (List Char)
  | [] => [piece]
  | part :: rest =>
      if '=' ∈ part then
        piece :: gluedFrom part rest
      else
        gluedFrom (piece ++ ',' :: part) rest

def pieces (word : List Char) : List (List Char) :=
  match Text.tokens (· == ',') word with
  | [] => []
  | first :: rest => gluedFrom first rest

/-- A pair without an equals sign is a bare key. -/
def readPiece (piece : List Char) : String × Value :=
  match Text.splitOnce '=' piece with
  | some (key, value) => (String.ofList key, .str (String.ofList value))
  | none => (String.ofList piece, .null)

def collect (stored added : Value) : Value :=
  match stored with
  | .list values => .list (values ++ [added])
  | single => .list [single, added]

/-- With `multiple`, the values of a repeated key are collected; otherwise the last one stays. -/
def add (multiple : Bool) (options : Mapping) (pair : String × Value) : Mapping :=
  let (key, value) := pair
  if key = "" then
    options
  else
    match multiple, options.get? key with
    | true, some stored => options.insert key (collect stored value)
    | _, _ => options.insert key value

def pairs (text : String) : Except Malformation (List (String × Value)) :=
  (Text.words text).map fun words => (words.flatMap pieces).map readPiece

def read (multiple : Bool) (text : String) : Except Malformation Mapping :=
  (pairs text).map fun pairs => pairs.foldl (add multiple) []

end Provisioning.Options
