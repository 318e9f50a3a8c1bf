import Provisioning.ItemError
import Provisioning.Text.Blank

/-!
Splitting a text into words: white space separates them, quotes group, and a backslash takes the
next character as it stands.
-/

namespace Provisioning.Text

inductive Quote where
  | bare
  | single
  | double
  deriving DecidableEq

/-- The words from here on. `word` holds the characters of the word that has begun, in reverse. -/
def wordsFrom (whole : String) : Quote → Option (List Char) → List Char →
    Except Malformation (List (List Char))
  | .bare, word, [] => .ok (word.toList.map List.reverse)
  | .single, _, [] | .double, _, [] => .error (.unclosedQuote whole)
  | .bare, word, '\\' :: rest =>
      match rest with
      | [] => .error .danglingEscape
      | escaped :: rest => wordsFrom whole .bare (some (escaped :: word.getD [])) rest
  | .double, word, '\\' :: rest =>
      match rest with
      | [] => .error .danglingEscape
      | escaped :: rest => wordsFrom whole .double (some (escaped :: word.getD [])) rest
  | .bare, word, '"' :: rest => wordsFrom whole .double (some (word.getD [])) rest
  | .bare, word, '\'' :: rest => wordsFrom whole .single (some (word.getD [])) rest
  | .double, word, '"' :: rest => wordsFrom whole .bare word rest
  | .single, word, '\'' :: rest => wordsFrom whole .bare word rest
  | .bare, word, character :: rest =>
      if isBlank character then
        match word with
        | some begun => (wordsFrom whole .bare none rest).map (begun.reverse :: ·)
        | none => wordsFrom whole .bare none rest
      else
        wordsFrom whole .bare (some (character :: word.getD [])) rest
  | .single, word, character :: rest =>
      wordsFrom whole .single (some (character :: word.getD [])) rest
  | .double, word, character :: rest =>
      wordsFrom whole .double (some (character :: word.getD [])) rest

def words (text : String) : Except Malformation (List (List Char)) :=
  wordsFrom text .bare none text.toList

end Provisioning.Text
