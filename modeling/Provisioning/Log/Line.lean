import Provisioning.Json.Printer
import Provisioning.Log
import Provisioning.Text.Quoted

/-!
Events as lines of text, plain or with terminal colors, and as lines of JSON.
-/

namespace Provisioning.Log

inductive Style where
  | dim
  | italic
  | red
  | green
  | yellow
  | blue
  | magenta

def Style.code : Style → String
  | .dim => "2"
  | .italic => "3"
  | .red => "31"
  | .green => "32"
  | .yellow => "33"
  | .blue => "34"
  | .magenta => "35"

def Style.paint (style : Style) (color : Bool) (text : String) : String :=
  if color then
    let code := style.code
    s!"\x1b[{code}m{text}\x1b[0m"
  else
    text

namespace Level

def style : Level → Style
  | .error => .red
  | .warn => .yellow
  | .info => .green
  | .debug => .blue
  | .trace => .magenta

def label (level : Level) : String :=
  let name := level.name
  String.ofList (List.replicate (5 - name.length) ' ') ++ name

end Level

/-- Controls that a terminal could act upon are shown by their code. -/
def inertChar (character : Char) : List Char :=
  let code := character.toNat
  if ['\x1b', '\x07', '\x08', '\x0c', '\x7f'].contains character then
    ['\\', 'x', Nat.digitChar (code / 16), Nat.digitChar (code % 16)]
  else if 0x80 ≤ code ∧ code ≤ 0x9f then
    Text.codeEscape character
  else
    [character]

def inert (text : String) : String :=
  String.ofList (text.toList.flatMap inertChar)

namespace FieldValue

def text : FieldValue → String
  | .plain text => text
  | .quoted text => Text.quoted text
  | .count number => toString number

def toJson : FieldValue → Json
  | .plain text | .quoted text => .str text
  | .count number => .int number

end FieldValue

namespace Event

def fieldText (color : Bool) (name : String) (value : FieldValue) : String :=
  " " ++ Style.italic.paint color name ++ Style.dim.paint color "=" ++ value.text

def textLine (color : Bool) (time : String) (event : Event) : String :=
  Style.dim.paint color time ++ " " ++
    event.level.style.paint color event.level.label ++ " " ++
    Style.dim.paint color event.target ++ Style.dim.paint color ":" ++ " " ++
    inert event.message ++
    String.join (event.fields.map fun field => fieldText color field.1 field.2)

def toJson (time : String) (event : Event) : Json :=
  .object [
    ("timestamp", .str time),
    ("level", .str event.level.name),
    ("fields", .object (("message", .str event.message) ::
      event.fields.map fun field => (field.1, field.2.toJson))),
    ("target", .str event.target)]

def jsonLine (time : String) (event : Event) : String :=
  (event.toJson time).render

end Event

end Provisioning.Log
