import Provisioning.Text.Lowercase
import Provisioning.Text.PrintTable

/-!
The quoted form of a text, in which quotes, backslashes, controls and characters without a glyph
of their own are escaped.
-/

namespace Provisioning.Text

def hexDigits (number : Nat) : List Char :=
  Nat.toDigits 16 number

def codeEscape (character : Char) : List Char :=
  '\\' :: 'u' :: '\x7b' :: (hexDigits character.toNat ++ ['\x7d'])

def quoteChar (character : Char) : List Char :=
  match character with
  | '\x00' => ['\\', '0']
  | '\t' => ['\\', 't']
  | '\r' => ['\\', 'r']
  | '\n' => ['\\', 'n']
  | '\\' => ['\\', '\\']
  | '"' => ['\\', '"']
  | ' ' => [' ']
  | _ =>
      if inRanges graphemeExtendRanges character || inRanges unprintableRanges character then
        codeEscape character
      else
        [character]

def quoted (text : String) : String :=
  String.ofList ('"' :: (text.toList.flatMap quoteChar ++ ['"']))

def quotedList (texts : List String) : String :=
  "[" ++ ", ".intercalate (texts.map quoted) ++ "]"

end Provisioning.Text
