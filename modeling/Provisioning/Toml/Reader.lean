import Provisioning.Toml.Moment
import Provisioning.Toml.Number
import Provisioning.Toml.Table
import Provisioning.Toml.Text

/-!
Reading a TOML document as a mapping. Dates and times become text.
-/

namespace Provisioning.Toml

def pairAt? (key : List String) (value : Value) : Option Pair :=
  key.getLast?.map fun last => { path := key.dropLast, key := last, value }

mutual

def valueFrom (depth : Nat) : Nat → List Char → Option (Value × List Char)
  | 0, _ => none
  | fuel + 1, characters =>
      match characters with
      | '[' :: rest =>
          if depth ≤ 1 then
            none
          else
            (itemsFrom (depth - 1) fuel rest).map fun (items, rest) => (.list items, rest)
      | '\x7b' :: rest =>
          if depth ≤ 1 then
            none
          else
            match skipBlanks rest with
            | '\x7d' :: rest => some (.dict [], rest)
            | rest =>
                match pairsFrom (depth - 1) fuel rest with
                | none => none
                | some (pairs, rest) => (ofPairs? pairs).map fun table => (.dict table, rest)
      | '"' :: _ | '\'' :: _ =>
          (string? characters).map fun (text, rest) => (.str (String.ofList text), rest)
      | 't' :: _ => (afterWord? "true" characters).map fun rest => (.bool true, rest)
      | 'f' :: _ => (afterWord? "false" characters).map fun rest => (.bool false, rest)
      | _ =>
          if startsDate characters || startsTime characters then
            (moment? characters).map fun (moment, rest) => (.str moment.text, rest)
          else
            number? characters

def itemsFrom (depth : Nat) : Nat → List Char → Option (List Value × List Char)
  | 0, _ => none
  | fuel + 1, characters =>
      match skipLines? characters with
      | none => none
      | some (']' :: rest) => some ([], rest)
      | some start =>
          match valueFrom depth fuel start with
          | none => none
          | some (item, rest) =>
              match skipLines? rest with
              | some (']' :: rest) => some ([item], rest)
              | some (',' :: rest) =>
                  (itemsFrom depth fuel rest).map fun (items, rest) => (item :: items, rest)
              | _ => none

/-- The pairs of a table in braces, all on one line and without a comma after the last. -/
def pairsFrom (depth : Nat) : Nat → List Char → Option (List Pair × List Char)
  | 0, _ => none
  | fuel + 1, characters =>
      match key? characters with
      | some (key, '=' :: rest) =>
          match valueFrom depth fuel (skipBlanks rest) with
          | none => none
          | some (value, rest) =>
              match pairAt? key value, skipBlanks rest with
              | some pair, '\x7d' :: rest => some ([pair], rest)
              | some pair, ',' :: rest =>
                  (pairsFrom depth fuel rest).map fun (pairs, rest) => (pair :: pairs, rest)
              | _, _ => none
      | _ => none

end

def value? (characters : List Char) : Option (Value × List Char) :=
  valueFrom depthLimit (2 * characters.length + 2) characters

def header? : List Char → Option (Statement × List Char)
  | '[' :: '[' :: rest =>
      match key? rest with
      | some (key, ']' :: ']' :: rest) => some (.listed key, rest)
      | _ => none
  | '[' :: rest =>
      match key? rest with
      | some (key, ']' :: rest) => some (.table key, rest)
      | _ => none
  | _ => none

def pair? (characters : List Char) : Option (Statement × List Char) := do
  match key? characters with
  | some (key, '=' :: rest) =>
      let (value, rest) ← value? (skipBlanks rest)
      let pair ← pairAt? key value
      return (.pair pair, rest)
  | _ => none

def statement? (characters : List Char) : Option (Statement × List Char) :=
  if characters.head? == some '[' then header? characters else pair? characters

def statementsFrom : Nat → List Char → Option (List Statement)
  | 0, _ => none
  | fuel + 1, characters =>
      match skipLines? characters with
      | none => none
      | some [] => some []
      | some start =>
          match statement? start with
          | none => none
          | some (statement, rest) =>
              match afterLine? rest with
              | none => none
              | some rest => (statementsFrom fuel rest).map (statement :: ·)

def read? (text : String) : Option Mapping :=
  let characters := match text.toList with
    | '\ufeff' :: rest => rest
    | characters => characters
  (statementsFrom (characters.length + 1) characters).bind ofStatements?

end Provisioning.Toml
