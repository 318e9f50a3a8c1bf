import Provisioning.Inheritable
import Provisioning.Number.Decimal
import Provisioning.Options
import Provisioning.Overlay
import Provisioning.Text.Lowercase
import Provisioning.Yaml.Reader

/-!
Converters from loosely shaped values to what a field stores. Lists and mappings may be written as
delimited text; every refusal names the field.
-/

namespace Provisioning.Convert

/-- The word that clears a list or mapping field. -/
def clearWord : String := "delete"

def truthyTokens : List String := ["true", "1", "y", "yes"]

def refuse {α : Type} (field : String) (reason : Refusal) : Except ItemError α :=
  .error (.refused field reason)

def isInheritToken : Value → Bool
  | .str text => text == inheritToken
  | _ => false

def inheritable {α : Type} (convert : Value → Except ItemError α) (value : Value) :
    Except ItemError (Inheritable α) :=
  if isInheritToken value then
    .ok .inherit
  else
    (convert value).map .own

def notInherited (field : String) (value : Value) : Except ItemError Unit :=
  if isInheritToken value then refuse field .notInheritable else .ok ()

def isSeparator (character : Char) : Bool :=
  Text.isBlank character || character == ','

def isCleared (trimmed : List Char) : Bool :=
  trimmed.isEmpty || trimmed == clearWord.toList

def splitTexts (text : String) : List String :=
  let trimmed := Text.trimChars text.toList
  if isCleared trimmed then
    []
  else
    (Text.tokens isSeparator trimmed).map String.ofList

def listEntry (field : String) : Value → Except ItemError String
  | .str text => .ok text
  | other => refuse field (.listEntry other.type)

def texts (field : String) : Value → Except ItemError (List String)
  | .null => .ok []
  | .str text => .ok (splitTexts text)
  | .list items => items.mapM (listEntry field)
  | other => refuse field (.wrongType "str or list" other.type)

/-- With `multiple`, a key given more than once in a text collects its values. -/
def overlay (field : String) (multiple : Bool) : Value → Except ItemError Overlay
  | .null => .ok {}
  | .str text =>
      let trimmed := Text.trimChars text.toList
      if isCleared trimmed then
        .ok {}
      else
        match Options.read multiple (String.ofList trimmed) with
        | .ok options => .ok (Overlay.ofMapping options)
        | .error cause => .error (.malformed cause)
  | .dict entries => .ok (Overlay.ofMapping (Dict.erase entries ""))
  | other => refuse field (.wrongType "str or dict" other.type)

def yamlOverlay (field : String) : Value → Except ItemError Overlay
  | .null => .ok {}
  | .str text =>
      if (Text.trimChars text.toList).isEmpty then
        .ok {}
      else
        match Yaml.read? text with
        | none => .error (.malformed .yaml)
        | some (.dict entries) => .ok (Overlay.ofMapping entries)
        | some other => refuse field (.yamlDocument other.type)
  | .dict entries => .ok (Overlay.ofMapping entries)
  | other => refuse field (.wrongType "str or dict" other.type)

def isTruthy (token : String) : Bool :=
  truthyTokens.contains (Text.lower (Text.trim token))

def flag (field : String) : Value → Except ItemError Bool
  | .bool flag => .ok flag
  | .int number => .ok (number != 0)
  | .str text => .ok (isTruthy text || Text.sameIgnoringCase (Text.trim text) "on")
  | other => refuse field (.wrongType "bool" other.type)

def integer (field : String) : Value → Except ItemError Int64
  | .int number => .ok number
  | .str text =>
      match Number.readInt64? (Text.trimChars text.toList) with
      | some number => .ok number
      | none => refuse field (.notInteger text)
  | other => refuse field (.wrongType "int" other.type)

def number (field : String) : Value → Except ItemError Float
  | .float number => .ok number
  | .int number => .ok number.toFloat
  | .str text =>
      match Number.readFloat? (Text.trimChars text.toList) with
      | some number => .ok number
      | none => refuse field (.notNumber text)
  | other => refuse field (.wrongType "float" other.type)

def finite (field : String) (seconds : Float) : Except ItemError Float :=
  if seconds.isFinite then .ok seconds else refuse field .notFinite

/-- Points in time are finite numbers; text is not read as one. -/
def timestamp (field : String) : Value → Except ItemError Float
  | .float seconds => finite field seconds
  | .int seconds => finite field seconds.toFloat
  | other => refuse field (.notNumeric other.type)

def text (field : String) : Value → Except ItemError String
  | .str text => .ok text
  | .null => .ok ""
  | other => refuse field (.wrongType "str" other.type)

end Provisioning.Convert
