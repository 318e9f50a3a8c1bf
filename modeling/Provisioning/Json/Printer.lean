import Provisioning.Json
import Provisioning.Number.Shortest

/-!
A JSON document as text on one line, without spaces between its parts.
-/

namespace Provisioning.Json

def escapeChar : Char → List Char
  | '"' => ['\\', '"']
  | '\\' => ['\\', '\\']
  | '\x08' => ['\\', 'b']
  | '\t' => ['\\', 't']
  | '\n' => ['\\', 'n']
  | '\x0c' => ['\\', 'f']
  | '\r' => ['\\', 'r']
  | character =>
      let code := character.toNat
      if code < 0x20 then
        ['\\', 'u', '0', '0', Nat.digitChar (code / 16), Nat.digitChar (code % 16)]
      else
        [character]

def renderText (text : String) : String :=
  String.ofList ('"' :: (text.toList.flatMap escapeChar ++ ['"']))

/-- A float keeps its point, which tells it from an integer. -/
def renderFloat (number : Float) : String :=
  if number.isFinite then
    let text := Number.floatText number
    if text.toList.contains '.' then text else text ++ ".0"
  else
    "null"

mutual

def render : Json → String
  | .null => "null"
  | .bool flag => if flag then "true" else "false"
  | .int number => toString number
  | .float number => renderFloat number
  | .str text => renderText text
  | .array items => "[" ++ ",".intercalate (renderItems items) ++ "]"
  | .object members => "\x7b" ++ ",".intercalate (renderMembers members) ++ "\x7d"

def renderItems : List Json → List String
  | [] => []
  | item :: rest => render item :: renderItems rest

def renderMembers : List (String × Json) → List String
  | [] => []
  | (key, member) :: rest => (renderText key ++ ":" ++ render member) :: renderMembers rest

end

def escapeUnit (unit : Nat) : List Char :=
  ['\\', 'u', Nat.digitChar (unit / 4096), Nat.digitChar (unit / 256 % 16),
    Nat.digitChar (unit / 16 % 16), Nat.digitChar (unit % 16)]

def escapeCode (code : Nat) : List Char :=
  if code < 0x10000 then
    escapeUnit code
  else
    let rest := code - 0x10000
    escapeUnit (0xD800 + rest / 0x400) ++ escapeUnit (0xDC00 + rest % 0x400)

def asciiChar (character : Char) : List Char :=
  if character.toNat < 0x7f then [character] else escapeCode character.toNat

def renderAscii (document : Json) : String :=
  String.ofList (document.render.toList.flatMap asciiChar)

end Provisioning.Json
