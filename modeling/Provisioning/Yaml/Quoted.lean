import Provisioning.Json.Reader
import Provisioning.Yaml.Gap

/-!
Quoted scalars. Between single quotes only a doubled quote is special; between double quotes a
backslash starts an escape or joins two lines.
-/

namespace Provisioning.Yaml

inductive QuoteStyle where
  | single
  | double
  deriving DecidableEq

def QuoteStyle.mark : QuoteStyle → Char
  | .single => '\''
  | .double => '"'

def codeEscape? (size : Nat) (characters : List Char) : Option (Char × Nat) :=
  let digits := characters.take size
  if digits.length < size then
    none
  else
    match Json.hexDigitsValue? digits with
    | none => none
    | some code => if code.isValidChar then some (Char.ofNat code, size + 1) else none

def escape? : List Char → Option (Char × Nat)
  | '0' :: _ => some ('\x00', 1)
  | 'a' :: _ => some ('\x07', 1)
  | 'b' :: _ => some ('\x08', 1)
  | 't' :: _ => some ('\t', 1)
  | '\t' :: _ => some ('\t', 1)
  | 'n' :: _ => some ('\n', 1)
  | 'v' :: _ => some ('\x0b', 1)
  | 'f' :: _ => some ('\x0c', 1)
  | 'r' :: _ => some ('\r', 1)
  | 'e' :: _ => some ('\x1b', 1)
  | ' ' :: _ => some (' ', 1)
  | '"' :: _ => some ('"', 1)
  | '/' :: _ => some ('/', 1)
  | '\\' :: _ => some ('\\', 1)
  | 'N' :: _ => some ('\u0085', 1)
  | '_' :: _ => some ('\u00a0', 1)
  | 'L' :: _ => some ('\u2028', 1)
  | 'P' :: _ => some ('\u2029', 1)
  | 'x' :: rest => codeEscape? 2 rest
  | 'u' :: rest => codeEscape? 4 rest
  | 'U' :: rest => codeEscape? 8 rest
  | _ => none

/-- The unbroken run of a quoted scalar at the front, after `text` in reverse. The flag tells
whether it ended in an escaped line break. -/
def quotedRunFrom (style : QuoteStyle) :
    Nat → List Char → Cursor → Option (List Char × Bool × Cursor)
  | 0, _, _ => none
  | fuel + 1, text, cursor =>
      match cursor.rest with
      | [] => some (text.reverse, false, cursor)
      | character :: rest =>
          if isGap character then
            some (text.reverse, false, cursor)
          else if style = .single ∧ character = '\'' ∧ rest.head? = some '\'' then
            quotedRunFrom style fuel ('\'' :: text) (cursor.skip 2)
          else if character = style.mark then
            some (text.reverse, false, cursor)
          else if style = .double ∧ character = '\\' then
            if rest.head?.any isBreak then
              some (text.reverse, true, (cursor.skip 1).skipBreak)
            else
              match escape? rest with
              | none => none
              | some (escaped, width) =>
                  quotedRunFrom style fuel (escaped :: text) (cursor.skip (width + 1))
          else
            quotedRunFrom style fuel (character :: text) (cursor.skip 1)

def quotedFrom (style : QuoteStyle) : Nat → List Char → Cursor → Option (List Char × Cursor)
  | 0, _, _ => none
  | fuel + 1, text, cursor =>
      if cursor.atDocumentMark || cursor.peek.isNone then
        none
      else
        match quotedRunFrom style (cursor.rest.length + 1) [] cursor with
        | none => none
        | some (run, escapedBreak, cursor) =>
            let text := text ++ run
            if cursor.peek == some style.mark then
              some (text, cursor.skip 1)
            else
              let gap := if escapedBreak then .broken [] [] else .empty
              match Gap.extend 0 gap cursor with
              | none => none
              | some (gap, cursor) => quotedFrom style fuel (text ++ gap.fold) cursor

def quoted? (style : QuoteStyle) (cursor : Cursor) : Option (List Char × Cursor) :=
  quotedFrom style (cursor.rest.length + 1) [] (cursor.skip 1)

end Provisioning.Yaml
